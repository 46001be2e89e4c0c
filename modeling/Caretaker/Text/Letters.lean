import Caretaker.Text.LetterTable
import Caretaker.Text.Table

/-!
# Letters and numbers

The letters and numbers of all scripts.
-/

namespace Caretaker.Text

/-- The letters and numbers outside ASCII, as intervals. -/
def alphanumericIntervals : List (Nat × Nat) :=
  intervalsOf LetterTable.alphanumeric

/-- The character is a letter or a number. -/
def isAlphanumeric (c : Char) : Bool :=
  if c.toNat < 128 then c.isAlphanum else liesIn alphanumericIntervals c.toNat

end Caretaker.Text
