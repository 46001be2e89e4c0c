import Mathlib.Order.Basic

/-!
# Numbers that compare equal

Two numbers compare equal when they are the same number, where the two zeros count as
one.  What is no number compares equal to nothing, not even to itself.  So comparing
equal is symmetric and transitive, although it is not reflexive.
-/

namespace Caretaker

open Float.Model

/-- The number without the sign of a zero; what is no number is on no level. -/
def level : UnpackedFloat → Option UnpackedFloat
  | .notANumber => none
  | .zero _ => some (.zero .positive)
  | other => some other

theorem compare_sign_eq_iff (s t : UnpackedFloat.Sign) : compare s t = .eq ↔ s = t := by
  cases s <;> cases t
  · exact ⟨fun _ => rfl, fun _ => rfl⟩
  · constructor <;> rintro ⟨⟩
  · constructor <;> rintro ⟨⟩
  · exact ⟨fun _ => rfl, fun _ => rfl⟩

/-- Numbers of one sign are compared by their exponents, and then by their mantissas. -/
theorem compare_finite_eq_iff (s : UnpackedFloat.Sign) {m n : Nat} {d e : Int} (hm : 0 < m)
    (hn : 0 < n) :
    (compare d e).then (compare m n) = .eq ↔
      UnpackedFloat.finite s m d hm = UnpackedFloat.finite s n e hn := by
  rw [Ordering.then_eq_eq, Std.LawfulEqCmp.compare_eq_iff_eq, Std.LawfulEqCmp.compare_eq_iff_eq]
  constructor
  · rintro ⟨rfl, rfl⟩
    rfl
  · rintro ⟨⟩
    exact ⟨rfl, rfl⟩

/-- Numbers on a level compare equal exactly when they are the same there. -/
theorem iff_same_level {p : Prop} {a b : UnpackedFloat} (same : p ↔ a = b) :
    p ↔ some a = some b ∧ some a ≠ none := by
  rw [same, Option.some.injEq, and_iff_left (Option.some_ne_none a)]

theorem compare_eq_iff_level (a b : UnpackedFloat) :
    a.compare b = some .eq ↔ level a = level b ∧ level a ≠ none := by
  cases a with
  | notANumber => exact iff_of_false (by cases b <;> rintro ⟨⟩) fun leveled => leveled.2 rfl
  | zero sign =>
      cases b with
      | zero other => exact iff_of_true rfl ⟨rfl, Option.some_ne_none _⟩
      | notANumber => exact iff_of_false (by rintro ⟨⟩) (by rintro ⟨⟨⟩, -⟩)
      | infinity other =>
          exact iff_of_false (by cases other <;> rintro ⟨⟩) (by rintro ⟨⟨⟩, -⟩)
      | finite other n e hn =>
          exact iff_of_false (by cases other <;> rintro ⟨⟩) (by rintro ⟨⟨⟩, -⟩)
  | infinity sign =>
      cases b with
      | infinity other =>
          apply iff_same_level
          show some (compare sign other) = some .eq ↔ _
          rw [Option.some.injEq, compare_sign_eq_iff, UnpackedFloat.infinity.injEq]
      | _ => exact iff_of_false (by cases sign <;> rintro ⟨⟩) (by rintro ⟨⟨⟩, -⟩)
  | finite sign m d hm =>
      cases b with
      | finite other n e hn =>
          apply iff_same_level
          cases sign <;> cases other
          · show some ((compare d e).then (compare m n)).swap = some .eq ↔ _
            rw [Option.some.injEq, Ordering.swap_eq_eq, compare_finite_eq_iff _ hm hn]
          · exact iff_of_false (by rintro ⟨⟩) (by rintro ⟨⟩)
          · exact iff_of_false (by rintro ⟨⟩) (by rintro ⟨⟩)
          · show some ((compare d e).then (compare m n)) = some .eq ↔ _
            rw [Option.some.injEq, compare_finite_eq_iff _ hm hn]
      | notANumber => exact iff_of_false (by cases sign <;> rintro ⟨⟩) (by rintro ⟨⟨⟩, -⟩)
      | zero other => exact iff_of_false (by cases sign <;> rintro ⟨⟩) (by rintro ⟨⟨⟩, -⟩)
      | infinity other =>
          exact iff_of_false (by cases sign <;> cases other <;> rintro ⟨⟩) (by rintro ⟨⟨⟩, -⟩)

theorem number_beq_iff_level {x y : Float} :
    (x == y) = true ↔
      level x.toModel.unpack = level y.toModel.unpack ∧ level x.toModel.unpack ≠ none := by
  show (x.toModel.unpack.compare y.toModel.unpack == some .eq) = true ↔ _
  rw [beq_iff_eq, compare_eq_iff_level]

instance partialEquivBEqFloat : PartialEquivBEq Float where
  symm same := by
    obtain ⟨one, leveled⟩ := number_beq_iff_level.mp same
    exact number_beq_iff_level.mpr ⟨one.symm, one ▸ leveled⟩
  trans same same' := by
    obtain ⟨one, leveled⟩ := number_beq_iff_level.mp same
    obtain ⟨one', _⟩ := number_beq_iff_level.mp same'
    exact number_beq_iff_level.mpr ⟨one.trans one', leveled⟩

end Caretaker
