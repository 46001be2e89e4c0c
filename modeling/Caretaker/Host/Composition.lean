import Caretaker.Host.CompositionTable
import Caretaker.Text.Table

/-!
# Composed characters

A letter with marks can be written in several ways.  Here it gets the one with as few
characters as possible: all characters are taken apart, marks on one letter are put
into order by their class, and then each mark is joined to its letter where there is
a character for the two.
-/

namespace Caretaker.Host

open Text

/-- Composed characters with their two parts. -/
def composedRows : List (Nat × Nat × Nat) :=
  (rowsOf CompositionTable.pairs).filterMap fun row =>
    match row with
    | [whole, first, second] => some (whole, first, second)
    | _ => none

/-- Intervals of marks with the class of their members. -/
def markClassRows : List (Nat × Nat × Nat) :=
  (rowsOf CompositionTable.markClasses).filterMap fun row =>
    match row with
    | [first, last, markClass] => some (first, last, markClass)
    | _ => none

/-- The class of a mark; other characters have class zero. -/
def markClass (c : Char) : Nat :=
  if c.toNat < 128 then 0
  else
    match markClassRows.find? fun row => row.1 ≤ c.toNat && c.toNat ≤ row.2.1 with
    | some row => row.2.2
    | none => 0

/-- The class of the marks that silence the vowel of a letter. -/
def vowelKillerClass : Nat := 9

/-! ## Syllables of Hangul -/

namespace Hangul

/-- The first syllable; the others follow by initial, medial and final. -/
def firstSyllable : Nat := 0xAC00

/-- The first initial consonant. -/
def firstInitial : Nat := 0x1100

/-- The first medial vowel. -/
def firstMedial : Nat := 0x1161

/-- The code point in front of the final consonants, which stands for none. -/
def noFinal : Nat := 0x11A7

/-- The number of initials. -/
def initials : Nat := 19

/-- The number of medials. -/
def medials : Nat := 21

/-- The number of finals, none included. -/
def finals : Nat := 28

/-- The parts of a syllable. -/
def parts? (code : Nat) : Option (List Nat) :=
  let index := code - firstSyllable
  if firstSyllable ≤ code ∧ index < initials * medials * finals then
    some ([firstInitial + index / finals / medials, firstMedial + index / finals % medials] ++
      (if index % finals = 0 then [] else [noFinal + index % finals]))
  else none

/-- The syllable of two parts: an initial and a medial, or a syllable without a final
and a final. -/
def join? (first second : Nat) : Option Nat :=
  if firstInitial ≤ first ∧ first < firstInitial + initials ∧
      firstMedial ≤ second ∧ second < firstMedial + medials then
    some (firstSyllable +
      ((first - firstInitial) * medials + (second - firstMedial)) * finals)
  else if firstSyllable ≤ first ∧ first - firstSyllable < initials * medials * finals ∧
      (first - firstSyllable) % finals = 0 ∧
      noFinal < second ∧ second < noFinal + finals then
    some (first + (second - noFinal))
  else none

end Hangul

/-! ## Taking apart -/

/-- The parts of a character that has at most `depth` marks in it. -/
def partsWithin : Nat → Nat → List Nat
  | 0, code => [code]
  | depth + 1, code =>
      match composedRows.find? fun row => row.1 = code with
      | some (_, first, second) => partsWithin depth first ++ [second]
      | none => [code]

/-- The most marks that one character has in it. -/
def mostMarks : Nat := 4

/-- The parts of a character. -/
def parts (c : Char) : List Char :=
  if c.toNat < 128 then [c]
  else ((Hangul.parts? c.toNat).getD (partsWithin mostMarks c.toNat)).map Char.ofNat

/-! ## Order of marks -/

/-- Put a character before a text in which marks are in order. -/
def insertMark (c : Char) : List Char → List Char
  | [] => [c]
  | other :: rest =>
      if 0 < markClass other ∧ markClass other < markClass c then other :: insertMark c rest
      else c :: other :: rest

/-- The text with the marks on each letter in order. -/
def orderMarks : List Char → List Char
  | [] => []
  | c :: rest => insertMark c (orderMarks rest)

/-! ## Joining -/

/-- The character for two. -/
def join? (first second : Char) : Option Char :=
  if second.toNat < 128 then none
  else
    (Hangul.join? first.toNat second.toNat <|>
      (composedRows.find? fun row => row.2.1 = first.toNat && row.2.2 = second.toNat).map
        fun row => row.1).map Char.ofNat

/-- Join the marks behind `letter` to it.  `kept` are the marks that could not be
joined, from the last to the first; a mark of the class of the last of them or of a
lower one cannot pass them. -/
def joinMarks (letter : Char) (kept : List Char) : List Char → List Char
  | [] => letter :: kept.reverse
  | c :: rest =>
      let passes := match kept with
        | [] => true
        | mark :: _ => decide (markClass mark < markClass c)
      match (if passes then join? letter c else none) with
      | some joined => joinMarks joined kept rest
      | none =>
          if markClass c = 0 then letter :: kept.reverse ++ joinMarks c [] rest
          else joinMarks letter (c :: kept) rest

/-- The text with as few characters as possible. -/
def compose (cs : List Char) : List Char :=
  match orderMarks (cs.flatMap parts) with
  | [] => []
  | c :: rest => joinMarks c [] rest

end Caretaker.Host
