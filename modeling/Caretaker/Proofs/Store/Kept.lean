import Caretaker.Proofs.Store.Rows
import Mathlib.Data.List.Forall2

/-!
# Workflows that are kept

What the store keeps of a workflow is the workflow itself, as long as its numbers are
compared as numbers: a zero may come back without its sign, and then still compares
equal.  Only what is no number does not come back.
-/

namespace Caretaker

/-- Every number equals itself. -/
theorem number_beq_self {x : Float} (isNumber : x.isNaN = false) : (x == x) = true := by
  have isNumber' : x.toModel.unpack.isNaN = false := isNumber
  show (x.toModel.unpack.compare x.toModel.unpack == some .eq) = true
  revert isNumber'
  rcases x.toModel.unpack with sign | _ | sign | ⟨sign, mantissa, exponent, positive⟩
  · cases sign <;> exact fun _ => rfl
  · rintro ⟨⟩
  · exact fun _ => rfl
  · have exponents : compare exponent exponent = .eq := Std.ReflCmp.compare_self
    have mantissas : compare mantissa mantissa = .eq := Std.ReflCmp.compare_self
    have level : (compare exponent exponent).then (compare mantissa mantissa) = .eq := by
      rw [exponents, mantissas]
      rfl
    intro _
    cases sign with
    | negative =>
        show (some ((compare exponent exponent).then (compare mantissa mantissa)).swap ==
          some .eq) = true
        rw [level]
        rfl
    | positive =>
        show (some ((compare exponent exponent).then (compare mantissa mantissa)) ==
          some .eq) = true
        rw [level]
        rfl

/-- A number compares equal to what a column keeps of it. -/
theorem beq_storedNumber {x : Option Float} (isNumber : ∀ y ∈ x, y.isNaN = false) :
    (x == storedNumber x) = true := by
  cases x with
  | none => rfl
  | some x =>
      have number : x.isNaN = false := isNumber x rfl
      simp only [storedNumber, Option.bind_some, number, Bool.false_eq_true, if_false]
      by_cases zero : (x == 0.0) = true
      · rw [if_pos zero]
        exact zero
      · rw [if_neg zero]
        exact number_beq_self number

/-- The second condition is the first one, but for how its number is written. -/
structure Condition.KeptAs (c found : Condition) : Prop where
  rest : found = { c with numberValue := found.numberValue }
  number : (c.numberValue == found.numberValue) = true

/-- The second action is the first one, but for how its number is written. -/
structure Action.KeptAs (a found : Action) : Prop where
  rest : found = { a with numberValue := found.numberValue }
  number : (a.numberValue == found.numberValue) = true

namespace Workflow

/-- The second workflow is the first one, with the same conditions in the same order, but
for how numbers are written. -/
structure KeptAs (w found : Workflow) : Prop where
  rest : found = { w with action := found.action, conditions := found.conditions }
  action : w.action.KeptAs found.action
  conditions : List.Forall₂ Condition.KeptAs w.conditions found.conditions

/-- The numbers of a workflow. -/
def numbers (w : Workflow) : List Float :=
  w.action.numberValue.toList ++ w.conditions.flatMap fun c => c.numberValue.toList

/-- Everything in the workflow can be kept: its instants are legible, and its numbers,
finite or not, are numbers. -/
structure Storable (w : Workflow) : Prop where
  legible : AllLegible w.instants
  numeric : ∀ x ∈ w.numbers, x.isNaN = false

/-- What is stored of a workflow is the workflow. -/
theorem keptAs_stored {w : Workflow} (storable : w.Storable) : w.KeptAs w.stored where
  rest := rfl
  action := by
    constructor
    · rfl
    · apply beq_storedNumber
      intro x member
      exact storable.numeric x (List.mem_append_left _ (Option.mem_toList.mpr member))
  conditions := by
    apply List.forall₂_map_right_iff.mpr
    apply List.forall₂_same.mpr
    intro c memberC
    constructor
    · rfl
    · apply beq_storedNumber
      intro x member
      have listed : x ∈ w.conditions.flatMap fun c => c.numberValue.toList :=
        List.mem_flatMap.mpr ⟨c, memberC, Option.mem_toList.mpr member⟩
      exact storable.numeric x (List.mem_append_right _ listed)

end Workflow

end Caretaker
