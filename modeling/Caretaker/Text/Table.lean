import Caretaker.Text.Digits

/-!
# Tables of numbers

Large tables are kept as texts: numbers in decimal with blanks between them, in rows
that end with a semicolon.  A table of intervals has rows of two numbers, the first
and the last member, or of one number that is both.
-/

namespace Caretaker.Text

/-- A table of which some characters have been read: the closed rows and the open row,
both from the end to the start, and the number that is being read. -/
structure TableReading where
  rows : List (List Nat)
  row : List Nat
  number : Option Nat

namespace TableReading

/-- Nothing has been read. -/
def start : TableReading :=
  ⟨[], [], none⟩

/-- One more character: a digit continues a number, anything else ends it. -/
def step (reading : TableReading) (c : Char) : TableReading :=
  match decimalDigit? c with
  | some digit => { reading with number := some (reading.number.getD 0 * 10 + digit) }
  | none =>
      let row := reading.number.toList ++ reading.row
      if c = ';' then ⟨row.reverse :: reading.rows, [], none⟩ else ⟨reading.rows, row, none⟩

end TableReading

/-- The rows of a table. -/
def rowsOf (table : String) : List (List Nat) :=
  (table.toList.foldl TableReading.step TableReading.start).rows.reverse

/-- The intervals of a table of intervals. -/
def intervalsOf (table : String) : List (Nat × Nat) :=
  (rowsOf table).filterMap fun row =>
    match row with
    | [only] => some (only, only)
    | [first, last] => some (first, last)
    | _ => none

/-- The code point lies in one of the closed intervals. -/
def liesIn (intervals : List (Nat × Nat)) (code : Nat) : Bool :=
  intervals.any fun interval => interval.1 ≤ code && code ≤ interval.2

end Caretaker.Text
