import Caretaker.Host.MappingTable
import Caretaker.Text.Table

/-!
# Characters in host names

Before a name is looked up, letters go to lower case, forms of one character become
that character, and characters that show nothing vanish.  A name with a character
that no name may hold has no such form.
-/

namespace Caretaker.Host

open Text

/-- Code points that no name may hold, as intervals. -/
def refusedIntervals : List (Nat × Nat) :=
  intervalsOf MappingTable.refused

/-- Code points that leave no trace, as intervals. -/
def vanishingIntervals : List (Nat × Nat) :=
  intervalsOf MappingTable.vanishing

/-- Runs of replacements. -/
def movedRuns : List (List Nat) :=
  rowsOf MappingTable.moved

/-- Code points with their replacements. -/
def replacedRows : List (List Nat) :=
  rowsOf MappingTable.replaced

/-- The replacement of a code point in a run of four numbers. -/
def moveAlong? (code : Nat) : List Nat → Option Nat
  | [first, last, step, target] =>
      if first ≤ code ∧ code ≤ last ∧ (code - first) % step = 0 then some (target + (code - first))
      else none
  | _ => none

/-- The replacement of a code point in a row of its own. -/
def replacement? (code : Nat) : List Nat → Option (List Nat)
  | [] => none
  | head :: codes => if head = code then some codes else none

/-- What a character of a name becomes. -/
def mapChar? (c : Char) : Option (List Char) :=
  let code := c.toNat
  if code < 128 then some [c.toLower]
  else if liesIn refusedIntervals code then none
  else if liesIn vanishingIntervals code then some []
  else match replacedRows.findSome? (replacement? code) with
    | some codes => some (codes.map Char.ofNat)
    | none => some [((movedRuns.findSome? (moveAlong? code)).map Char.ofNat).getD c]

/-- What a name becomes. -/
def map? (name : List Char) : Option (List Char) :=
  (name.mapM mapChar?).map List.flatten

end Caretaker.Host
