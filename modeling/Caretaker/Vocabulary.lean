import Caretaker.Json.Wire
import Caretaker.Text.Casing

/-!
# Words typed by people

Some vocabularies are also read from text that people type or that an older row
holds.  There the case of the letters does not matter, and an unknown word is
reported in upper case under the name of its vocabulary.
-/

namespace Caretaker

open Json Text

/-- A vocabulary with a name of its own. -/
class Vocabulary (α : Type) extends Worded α where
  noun : String

/-- A word outside its vocabulary. -/
structure UnknownWord where
  noun : String
  text : String
  deriving DecidableEq

/-- How an unknown word is reported. -/
def UnknownWord.message (unknown : UnknownWord) : String :=
  "invalid " ++ unknown.noun ++ ": '" ++ unknown.text ++ "'"

/-- The member a text names in any case. -/
def parseWord {α : Type} [Vocabulary α] (s : String) : Except UnknownWord α :=
  match ofWord? (upper s) with
  | some member => .ok member
  | none => .error ⟨Vocabulary.noun α, upper s⟩

end Caretaker
