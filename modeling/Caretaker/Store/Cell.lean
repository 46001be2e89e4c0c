import Caretaker.Calendar.Reading
import Caretaker.Store.Error
import Caretaker.Uuid

/-!
# Cells

What a column holds.  Identifiers, instants and words are stored as text; truth
values and counts as integers, measured numbers as reals.  Each kind of value has a
writer and a reader; the readers name the text that stopped them.
-/

namespace Caretaker

open Json Calendar

/-- The content of a column for numbers. -/
inductive Cell where
  | null
  | int (value : Int)
  | real (value : Float)
  | text (value : String)

namespace Cell

/-- What kind of content the cell has. -/
def kind : Cell → CellKind
  | .null => .null
  | .int _ => .integer
  | .real _ => .real
  | .text _ => .text

/-- A truth value as a cell. -/
def ofBool (b : Bool) : Cell :=
  .int (if b then 1 else 0)

/-- The truth value of a cell: every integer but zero is true. -/
def bool (column : String) : Cell → Except StoreError Bool
  | .int n => .ok (n != 0)
  | other => .error (.query (.mistypedCell column .truth other.kind))

/-- A number as a cell.  Zero loses its sign, and what is no number becomes null. -/
def ofFloat? : Option Float → Cell
  | some x => if x.isNaN then .null else .real (if x == 0.0 then 0.0 else x)
  | none => .null

/-- The number of a cell. -/
def float? (column : String) : Cell → Except StoreError (Option Float)
  | .null => .ok none
  | .real x => .ok (some x)
  | other => .error (.query (.mistypedCell column .optionalReal other.kind))

end Cell

namespace Stored

/-- The identifier behind a stored text. -/
def uuid (text : String) : Except StoreError Uuid :=
  match Uuid.parse? text with
  | some id => .ok id
  | none => .error (.query (.invalidUuid text))

/-- The instant behind a stored text. -/
def instant (text : String) : Except StoreError Instant :=
  match readStored? text with
  | some t => .ok t
  | none => .error (.query (.invalidInstant text))

/-- The member of a vocabulary with exactly the stored word. -/
def exact {α : Type} [Worded α] (text : String) : Except StoreError α :=
  match ofWord? text with
  | some member => .ok member
  | none => .error (.query (.invalidWord text))

/-- The member of a vocabulary that the stored text names in any case. -/
def loose {α : Type} [Vocabulary α] (text : String) : Except StoreError α :=
  match parseWord text with
  | .ok member => .ok member
  | .error unknown => .error (.query (.unknownWord unknown))

/-- A column that may be empty. -/
def opt {α : Type} (read : String → Except StoreError α) :
    Option String → Except StoreError (Option α)
  | none => .ok none
  | some text => match read text with
      | .ok value => .ok (some value)
      | .error e => .error e

/-- An identifier or nothing, as stored. -/
def uuidText (id : Option Uuid) : Option String :=
  id.map Uuid.text

/-- An instant or nothing, as stored. -/
def instantText (t : Option Instant) : Option String :=
  t.map Instant.storedText

/-- A word or nothing, as stored. -/
def wordText {α : Type} [Worded α] (member : Option α) : Option String :=
  member.map word

end Stored

end Caretaker
