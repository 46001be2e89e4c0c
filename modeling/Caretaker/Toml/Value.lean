/-!
# Values of a settings file

The values that a file in TOML can hold, and how a record is taken from one.  A
record is a table with names, or an array that lists its fields in their declared
order; a moment counts as a record in which nothing is set.
-/

namespace Caretaker.Toml

/-- A value of a settings file.  Which moment is meant makes no difference here. -/
inductive Value where
  | text (value : String)
  | integer (value : Int)
  | real (value : Float)
  | truth (value : Bool)
  | moment
  | array (items : List Value)
  | table (fields : List (String × Value))

namespace Value

instance : Inhabited Value := ⟨.moment⟩

/-- The text of a text. -/
def text? : Value → Option String
  | .text value => some value
  | _ => none

/-- A natural number below a limit. -/
def below? (limit : Nat) : Value → Option Nat
  | .integer n => if 0 ≤ n ∧ n < limit then some n.toNat else none
  | _ => none

/-- The fields of a record, each found by its position and its name. -/
def record? : Value → Option (Nat → String → Option Value)
  | .table fields => some fun _ name => fields.lookup name
  | .array items => some fun position _ => items[position]?
  | .moment => some fun _ _ => none
  | _ => none

end Value

/-- A field that has a value of its own when it is not set. -/
def setting? {α : Type} (read : Value → Option α) (unset : α) : Option Value → Option α
  | some value => read value
  | none => some unset

end Caretaker.Toml
