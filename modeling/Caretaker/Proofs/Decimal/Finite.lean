import Mathlib.Algebra.Group.Nat.Defs
import Caretaker.Decimal.Extended

/-!
# Doubles that stay finite

Products of finite doubles are finite unless they are infinite: they are never no number.
A quotient is followed by the exponent of the double.  A number of 64 bits has a small
exponent, and a division by something that is not small moves it up by one at most.  The
powers of ten are not small: rounding never moves the first bit of a number down.
-/

namespace Caretaker.Decimal

open Float.Model Float.Model.UnpackedFloat

/-! ## Rounding -/

theorem mantissa_shiftRight (em : ExtendedMantissa) (k : Nat) :
    (em >>> k).mantissa = em.mantissa / 2 ^ k := by
  induction k generalizing em with
  | zero => simp [HShiftRight.hShiftRight, Nat.repeat]
  | succ k inductionHypothesis =>
      show (em >>> k).mantissa / 2 = _
      rw [inductionHypothesis, Nat.div_div_eq_div_mul, Nat.pow_succ]

theorem roundedMantissa_le (em : ExtendedMantissa) :
    em.roundedMantissa ≤ em.mantissa + 1 := by
  obtain ⟨mantissa, round, sticky⟩ := em
  cases round <;> cases sticky <;>
    simp [ExtendedMantissa.roundedMantissa, ExtendedMantissa.accuracy,
      Accuracy.roundToNearestEven]
  omega

theorem le_roundedMantissa (em : ExtendedMantissa) : em.mantissa ≤ em.roundedMantissa := by
  obtain ⟨mantissa, round, sticky⟩ := em
  cases round <;> cases sticky <;>
    simp [ExtendedMantissa.roundedMantissa, ExtendedMantissa.accuracy,
      Accuracy.roundToNearestEven]

theorem mantissa_ofMantissaAndAccuracy (mantissa : Nat) (accuracy : Accuracy) :
    (ExtendedMantissa.ofMantissaAndAccuracy mantissa accuracy).mantissa = mantissa := by
  cases accuracy with
  | exact => rfl
  | inexact order => cases order <;> rfl

theorem targetExponent_eq (total : Int) :
    Format.binary64.targetExponent total = max (total - 53) (-1074) :=
  rfl

/-- Shifting to the target exponent moves an exponent up to it, never down. -/
theorem exponent_shiftToTargetExponent (mantissa : Nat) (exponent : Int) (accuracy : Accuracy) :
    (shiftToTargetExponent Format.binary64 mantissa exponent accuracy).2 =
      max exponent (max (totalExponent mantissa exponent - 53) (-1074)) := by
  simp only [shiftToTargetExponent, shiftToExponent, targetExponent_eq]
  omega

/-- What is left of a mantissa after the shift, rounded, has at most 54 bits. -/
theorem log2_roundedMantissa_le (mantissa : Nat) (exponent : Int) (accuracy : Accuracy) :
    (shiftToTargetExponent Format.binary64 mantissa exponent accuracy).1.roundedMantissa.log2 ≤
      53 := by
  have rounded := roundedMantissa_le
    (shiftToTargetExponent Format.binary64 mantissa exponent accuracy).1
  simp only [shiftToTargetExponent, shiftToExponent, targetExponent_eq, mantissa_shiftRight,
    mantissa_ofMantissaAndAccuracy] at rounded ⊢
  generalize shift :
    (max (totalExponent mantissa exponent - 53) (-1074) - exponent).toNat = k at rounded ⊢
  have bits : mantissa.log2 + 1 ≤ 53 + k := by
    simp only [totalExponent] at shift
    omega
  have below : mantissa / 2 ^ k < 2 ^ 53 := by
    rw [Nat.div_lt_iff_lt_mul (Nat.two_pow_pos k), ← Nat.pow_add]
    exact Nat.lt_of_lt_of_le Nat.lt_log2_self (Nat.pow_le_pow_right (by decide) bits)
  generalize ExtendedMantissa.roundedMantissa _ = result at rounded ⊢
  by_cases zero : result = 0
  · simp [zero]
  · exact Nat.le_of_lt_succ ((Nat.log2_lt zero).mpr (by omega))

/-- The number is zero, or a mantissa times at most this power of two. -/
def ExponentAtMost (bound : Int) : UnpackedFloat → Prop
  | .zero _ => True
  | .finite _ _ exponent _ => exponent ≤ bound
  | .infinity _ | .notANumber => False

theorem ExponentAtMost.mono {a b : Int} {x : UnpackedFloat} (le : a ≤ b)
    (fits : ExponentAtMost a x) : ExponentAtMost b x := by
  cases x with
  | zero sign => trivial
  | finite sign mantissa exponent positive => exact Int.le_trans fits le
  | infinity sign => exact fits
  | notANumber => exact fits

theorem exponentAtMost_roundWithAccuracy {mantissa : Nat} {exponent bound : Int} (sign : Sign)
    (accuracy : Accuracy) (low : exponent ≤ bound) (wide : -1074 ≤ bound)
    (total : totalExponent mantissa exponent ≤ bound + 53) :
    ExponentAtMost (bound + 1)
      (roundWithAccuracy Format.binary64 sign mantissa exponent accuracy) := by
  have moved := exponent_shiftToTargetExponent mantissa exponent accuracy
  have bits := log2_roundedMantissa_le mantissa exponent accuracy
  rw [roundWithAccuracy]
  generalize shiftToTargetExponent Format.binary64 mantissa exponent accuracy = first at moved bits ⊢
  obtain ⟨em, raised⟩ := first
  have movedAgain := exponent_shiftToTargetExponent em.roundedMantissa raised .exact
  dsimp only at moved bits ⊢
  by_cases zero : (shiftToTargetExponent Format.binary64 em.roundedMantissa raised
      .exact).1.mantissa = 0
  · rw [dif_pos zero]
    trivial
  · rw [dif_neg zero]
    show (shiftToTargetExponent Format.binary64 em.roundedMantissa raised .exact).2 ≤ bound + 1
    simp only [totalExponent] at moved movedAgain total
    omega

/-! ## Packing -/

theorem toNat_ofNat_exponent {n : Nat} (fits : n < 2 ^ 11) : (BitVec.ofNat 11 n).toNat = n := by
  rw [BitVec.toNat_ofNat, Nat.mod_eq_of_lt fits]

/-- A bit pattern whose exponent is not the largest is a finite number with that
exponent, or with the least one. -/
theorem exponentAtMost_unpack {bits : BitVec 64}
    (finite : @unpackExponent Format.binary64 bits ≠ -1#11) :
    ExponentAtMost (max (((@unpackExponent Format.binary64 bits).toNat : Int) - 1075) (-1074))
      (UnpackedFloat.unpack Format.binary64 bits) := by
  unfold UnpackedFloat.unpack
  generalize @unpackExponent Format.binary64 bits = exponent at finite ⊢
  rw [if_neg finite]
  by_cases least : exponent = 0#11
  · rw [if_pos least]
    by_cases zero : @unpackMantissa Format.binary64 bits = 0#52
    · rw [dif_pos zero]
      trivial
    · rw [dif_neg zero]
      have none : exponent.toNat = 0 := congrArg BitVec.toNat least
      show (exponent.toNat : Int) - ((1023 + 52 : Nat) : Int) + 1 ≤ _
      omega
  · rw [if_neg least]
    show (exponent.toNat : Int) - ((1023 + 52 : Nat) : Int) ≤ _
    omega

theorem exponentAtMost_unpack_packComponents (sign : Sign) {exponent : BitVec 11}
    (mantissa : BitVec 52) (finite : exponent ≠ -1#11) :
    ExponentAtMost (max ((exponent.toNat : Int) - 1075) (-1074))
      (UnpackedFloat.unpack Format.binary64
        (packComponents Format.binary64 sign exponent mantissa)) := by
  have unpacked := @exponentAtMost_unpack (packComponents Format.binary64 sign exponent mantissa)
  rw [unpackExponent_packComponents] at unpacked
  exact unpacked finite

/-- The exponent as it is stored. -/
def storedExponent (exponent : Int) : Nat :=
  (exponent + (1023 : Nat) + (52 : Nat)).toNat

theorem pack_finite (sign : Sign) {mantissa : Nat} {exponent : Int} (positive : 0 < mantissa) :
    UnpackedFloat.pack Format.binary64 (.finite sign mantissa exponent positive) =
      if 2048 ≤ storedExponent exponent + 1 then packedInfinity Format.binary64 sign
      else if mantissa.log2 + 1 = 53 then
        packComponents Format.binary64 sign (.ofNat 11 (storedExponent exponent))
          (.ofNat 52 mantissa)
      else packComponents Format.binary64 sign 0#11 (.ofNat 52 mantissa) :=
  rfl

theorem exponentAtMost_pack {x : UnpackedFloat} {bound : Int} (wide : -1074 ≤ bound)
    (fits : ExponentAtMost bound x) (small : bound ≤ 971) :
    ExponentAtMost bound (Float.Model.pack x).unpack := by
  cases x with
  | infinity sign => exact fits.elim
  | notANumber => exact fits.elim
  | zero sign => cases sign <;> trivial
  | finite sign mantissa exponent positive =>
      have fits : exponent ≤ bound := fits
      have room : ¬ 2048 ≤ storedExponent exponent + 1 := by
        unfold storedExponent
        omega
      show ExponentAtMost bound (UnpackedFloat.unpack Format.binary64
        (UnpackedFloat.pack Format.binary64 (.finite sign mantissa exponent positive)))
      rw [pack_finite, if_neg room]
      split
      · have exact := toNat_ofNat_exponent (n := storedExponent exponent) (by omega)
        refine .mono ?_ (exponentAtMost_unpack_packComponents sign _ ?_)
        · rw [exact]
          unfold storedExponent
          omega
        · intro largest
          have same := congrArg BitVec.toNat largest
          rw [exact] at same
          simp at same
          omega
      · refine .mono ?_ (exponentAtMost_unpack_packComponents sign _ (by decide))
        show max ((0 : Int) - 1075) (-1074) ≤ bound
        omega

/-- The largest exponent is that of an infinity or of no number. -/
theorem unpackExponent_ne_largest {bits : BitVec 64}
    (finite : (UnpackedFloat.unpack Format.binary64 bits).isFinite = true) :
    @unpackExponent Format.binary64 bits ≠ -1#11 := by
  intro largest
  revert finite
  unfold UnpackedFloat.unpack
  rw [if_pos largest]
  split <;> exact fun finite => Bool.noConfusion finite

/-- A finite double has an exponent below the largest one. -/
theorem exponentAtMost_of_isFinite (bits : BitVec 64)
    (finite : (UnpackedFloat.unpack Format.binary64 bits).isFinite = true) :
    ExponentAtMost 971 (UnpackedFloat.unpack Format.binary64 bits) := by
  have notLargest := unpackExponent_ne_largest finite
  have fits : (@unpackExponent Format.binary64 bits).toNat < 2048 :=
    (@unpackExponent Format.binary64 bits).isLt
  have below : (@unpackExponent Format.binary64 bits).toNat ≠ 2047 :=
    fun largest => notLargest (BitVec.eq_of_toNat_eq largest)
  exact (exponentAtMost_unpack notLargest).mono (by omega)

theorem ExponentAtMost.isFinite {bound : Int} {x : UnpackedFloat}
    (fits : ExponentAtMost bound x) : x.isFinite = true := by
  cases x with
  | zero sign => rfl
  | finite sign mantissa exponent positive => rfl
  | infinity sign => exact fits.elim
  | notANumber => exact fits.elim

/-- A finite number that does not fit is packed as an infinity, never as no number. -/
theorem isFinite_pack {x : UnpackedFloat} (finite : x.isFinite = true)
    (noInfinity : (Float.Model.pack x).unpack.isInf = false) :
    (Float.Model.pack x).unpack.isFinite = true := by
  cases x with
  | infinity sign => cases finite
  | notANumber => cases finite
  | zero sign => cases sign <;> rfl
  | finite sign mantissa exponent positive =>
      by_cases fits : exponent ≤ 971
      · exact (exponentAtMost_pack (x := .finite sign mantissa exponent positive) (by decide) fits
          (by decide)).isFinite
      · have wide : 2048 ≤ storedExponent exponent + 1 := by
          unfold storedExponent
          omega
        have packed : UnpackedFloat.pack Format.binary64 (.finite sign mantissa exponent positive) =
            packedInfinity Format.binary64 sign := by
          rw [pack_finite, if_pos wide]
        change (UnpackedFloat.unpack Format.binary64
          (UnpackedFloat.pack Format.binary64 _)).isInf = false at noInfinity
        rw [packed] at noInfinity
        cases sign <;> exact Bool.noConfusion noInfinity

/-! ## Operations -/

theorem isFinite_roundWithAccuracy (sign : Sign) (mantissa : Nat) (exponent : Int)
    (accuracy : Accuracy) :
    (roundWithAccuracy Format.binary64 sign mantissa exponent accuracy).isFinite = true :=
  (@exponentAtMost_roundWithAccuracy _ _
    (max exponent (max (-1074) (totalExponent mantissa exponent - 53))) sign accuracy (by omega)
    (by omega) (by omega)).isFinite

/-- The exponent of a double. -/
def DoubleAtMost (bound : Int) (x : Float) : Prop :=
  ExponentAtMost bound x.toModel.unpack

theorem DoubleAtMost.isFinite {bound : Int} {x : Float} (fits : DoubleAtMost bound x) :
    x.isFinite = true :=
  ExponentAtMost.isFinite fits

theorem doubleAtMost_of_isFinite {x : Float} (finite : x.isFinite = true) :
    DoubleAtMost 971 x :=
  exponentAtMost_of_isFinite x.toModel.toBits.toBitVec finite

theorem isFinite_mul {x y : Float} (left : x.isFinite = true) (right : y.isFinite = true)
    (noInfinity : (x * y).isInf = false) : (x * y).isFinite = true := by
  refine isFinite_pack ?_ noInfinity
  change x.toModel.unpack.isFinite = true at left
  change y.toModel.unpack.isFinite = true at right
  generalize x.toModel.unpack = a at left ⊢
  generalize y.toModel.unpack = b at right ⊢
  cases a with
  | infinity sign => cases left
  | notANumber => cases left
  | zero sign =>
      cases b with
      | infinity sign => cases right
      | notANumber => cases right
      | zero sign => rfl
      | finite sign mantissa exponent positive => rfl
  | finite sign mantissa exponent positive =>
      cases b with
      | infinity sign => cases right
      | notANumber => cases right
      | zero sign => rfl
      | finite sign mantissa exponent positive => exact isFinite_roundWithAccuracy ..

theorem isFinite_neg {x : Float} (finite : x.isFinite = true) : (-x).isFinite = true := by
  have fits : ExponentAtMost 971 x.toModel.unpack := doubleAtMost_of_isFinite finite
  refine (@exponentAtMost_pack _ 971 (by decide) ?_ (by decide)).isFinite
  generalize x.toModel.unpack = a at fits ⊢
  cases a with
  | zero sign => trivial
  | finite sign mantissa exponent positive => exact fits
  | infinity sign => exact fits.elim
  | notANumber => exact fits.elim

theorem log2_shiftLeft_le (m k : Nat) : (m <<< k).log2 ≤ m.log2 + k := by
  by_cases zero : m <<< k = 0
  · simp [zero]
  · refine Nat.le_of_lt_succ ((Nat.log2_lt zero).mpr ?_)
    rw [Nat.shiftLeft_eq, ← Nat.succ_add, Nat.pow_add]
    exact Nat.mul_lt_mul_of_pos_right Nat.lt_log2_self (Nat.two_pow_pos k)

/-- A quotient has no more bits than the difference says. -/
theorem log2_div_add_log2_le {m d : Nat} (quotient : m / d ≠ 0) :
    (m / d).log2 + d.log2 ≤ m.log2 := by
  have divisor : d ≠ 0 := fun zero => quotient (by rw [zero, Nat.div_zero])
  refine (Nat.le_log2 (fun zero => quotient (by rw [zero, Nat.zero_div]))).mpr ?_
  calc 2 ^ ((m / d).log2 + d.log2) = 2 ^ (m / d).log2 * 2 ^ d.log2 := Nat.pow_add ..
    _ ≤ m / d * d := Nat.mul_le_mul (Nat.log2_self_le quotient) (Nat.log2_self_le divisor)
    _ ≤ m := Nat.div_mul_le_self m d

/-- A number of 64 bits is a double of moderate size. -/
theorem doubleAtMost_toFloat (n : UInt64) : DoubleAtMost 12 n.toFloat := by
  refine exponentAtMost_pack (by decide) ?_ (by decide)
  rw [UnpackedFloat.ofUInt64, UnpackedFloat.ofNat, UnpackedFloat.ofInt,
    UnpackedFloat.normalize]
  split
  · rename_i negative
    exact absurd (Int.compare_eq_lt.mp negative) (by omega)
  · trivial
  · have bits : n.toNat.log2 ≤ 63 := by
      by_cases zero : n.toNat = 0
      · simp [zero]
      · exact Nat.le_of_lt_succ ((Nat.log2_lt zero).mpr n.toNat_lt)
    simp only [UnpackedFloat.round, decreaseExponent, targetExponent_eq, Int.toNat_natCast]
    have shifted := log2_shiftLeft_le n.toNat
      (0 - max (totalExponent n.toNat 0 - 53) (-1074)).toNat
    refine @exponentAtMost_roundWithAccuracy _ _ 11 _ _ (by omega) (by decide) ?_
    rw [totalExponent]
    simp only [totalExponent] at shifted ⊢
    omega

/-- The number is at least one half. -/
def AtLeastHalf : UnpackedFloat → Prop
  | .finite _ mantissa exponent _ => 0 ≤ mantissa.log2 + exponent
  | .zero _ | .infinity _ | .notANumber => False

instance : DecidablePred AtLeastHalf
  | .finite _ mantissa exponent _ => inferInstanceAs (Decidable (0 ≤ mantissa.log2 + exponent))
  | .zero _ | .infinity _ | .notANumber => inferInstanceAs (Decidable False)

theorem AtLeastHalf.isFinite {x : UnpackedFloat} (large : AtLeastHalf x) : x.isFinite = true := by
  cases x with
  | finite sign mantissa exponent positive => rfl
  | zero sign => exact large.elim
  | infinity sign => exact large.elim
  | notANumber => exact large.elim

theorem log2_div_two_pow {m k : Nat} (fits : k ≤ m.log2) : (m / 2 ^ k).log2 = m.log2 - k := by
  by_cases zero : m = 0
  · subst zero
    simp
  · have least : 2 ^ k * 2 ^ (m.log2 - k) ≤ m := by
      rw [← Nat.pow_add, Nat.add_sub_cancel' fits]
      exact Nat.log2_self_le zero
    have most : m < 2 ^ (m.log2 - k + 1) * 2 ^ k := by
      rw [← Nat.pow_add, show m.log2 - k + 1 + k = m.log2 + 1 by omega]
      exact Nat.lt_log2_self
    have low : 2 ^ (m.log2 - k) ≤ m / 2 ^ k := by
      rwa [Nat.le_div_iff_mul_le (Nat.two_pow_pos k), Nat.mul_comm]
    have high : m / 2 ^ k < 2 ^ (m.log2 - k + 1) :=
      (Nat.div_lt_iff_lt_mul (Nat.two_pow_pos k)).mpr most
    have positive : m / 2 ^ k ≠ 0 := Nat.ne_of_gt (Nat.lt_of_lt_of_le (Nat.two_pow_pos _) low)
    exact (Nat.log2_eq_iff positive).mpr ⟨low, high⟩

/-- A mantissa that is wide enough is cut to 53 bits. -/
theorem log2_shiftToTargetExponent {mantissa : Nat} {exponent : Int} (accuracy : Accuracy)
    (wide : 52 ≤ mantissa.log2) (normal : -1021 ≤ totalExponent mantissa exponent) :
    (shiftToTargetExponent Format.binary64 mantissa exponent accuracy).1.mantissa.log2 = 52 := by
  simp only [shiftToTargetExponent, shiftToExponent, targetExponent_eq, mantissa_shiftRight,
    mantissa_ofMantissaAndAccuracy]
  rw [log2_div_two_pow]
  all_goals
    simp only [totalExponent] at normal ⊢
    omega

/-- A wide mantissa of a number that is at least one half is rounded to 53 bits. -/
theorem roundWithAccuracy_of_wide {mantissa : Nat} {exponent : Int} (sign : Sign)
    (accuracy : Accuracy) (wide : 52 ≤ mantissa.log2)
    (large : 1 ≤ totalExponent mantissa exponent) :
    ∃ rounded raised positive,
      roundWithAccuracy Format.binary64 sign mantissa exponent accuracy =
        .finite sign rounded raised positive ∧
      rounded.log2 = 52 ∧ -52 ≤ raised ∧ raised ≤ totalExponent mantissa exponent - 52 := by
  have moved := exponent_shiftToTargetExponent mantissa exponent accuracy
  have most := log2_roundedMantissa_le mantissa exponent accuracy
  have cut : (shiftToTargetExponent Format.binary64 mantissa exponent accuracy).1.mantissa.log2 =
      52 := log2_shiftToTargetExponent accuracy wide (by omega)
  rw [roundWithAccuracy]
  generalize shiftToTargetExponent Format.binary64 mantissa exponent accuracy = first
    at moved most cut ⊢
  obtain ⟨em, first⟩ := first
  dsimp only [totalExponent] at moved most cut large ⊢
  have nonzero : em.mantissa ≠ 0 := by
    intro zero
    rw [zero] at cut
    exact absurd cut (by decide)
  have least : 52 ≤ em.roundedMantissa.log2 := by
    have rounded := le_roundedMantissa em
    rw [Nat.le_log2 (by omega)]
    exact Nat.le_trans ((Nat.le_log2 nonzero).mp (Nat.le_of_eq cut.symm)) rounded
  have movedAgain := exponent_shiftToTargetExponent em.roundedMantissa first .exact
  have cutAgain : (shiftToTargetExponent Format.binary64 em.roundedMantissa first
      .exact).1.mantissa.log2 = 52 :=
    log2_shiftToTargetExponent .exact least (by simp only [totalExponent]; omega)
  generalize shiftToTargetExponent Format.binary64 em.roundedMantissa first .exact = second
    at movedAgain cutAgain ⊢
  obtain ⟨final, raised⟩ := second
  simp only [totalExponent] at movedAgain cutAgain
  have positive : final.mantissa ≠ 0 := by
    intro zero
    rw [zero] at cutAgain
    exact absurd cutAgain (by decide)
  refine ⟨final.mantissa, raised, Nat.pos_of_ne_zero positive, dif_neg positive, cutAgain, ?_, ?_⟩
  · omega
  · omega

/-- A bit pattern with one of the upper exponents is a number that is not small. -/
theorem atLeastHalf_unpack {bits : BitVec 64}
    (finite : @unpackExponent Format.binary64 bits ≠ -1#11)
    (upper : 1023 ≤ (@unpackExponent Format.binary64 bits).toNat) :
    AtLeastHalf (UnpackedFloat.unpack Format.binary64 bits) := by
  unfold UnpackedFloat.unpack
  generalize @unpackExponent Format.binary64 bits = exponent at finite upper ⊢
  have notLeast : exponent ≠ 0#11 := by
    intro zero
    rw [zero] at upper
    exact absurd upper (by decide)
  rw [if_neg finite, if_neg notLeast]
  have implicitBit : 52 ≤ (1#1 ++ @unpackMantissa Format.binary64 bits).toNat.log2 := by
    have bit : 2 ^ 52 ≤ (1#1 ++ @unpackMantissa Format.binary64 bits).toNat := by
      rw [BitVec.toNat_append]
      exact Nat.left_le_or
    exact (Nat.le_log2 (by omega)).mpr bit
  show (0 : Int) ≤ (1#1 ++ @unpackMantissa Format.binary64 bits).toNat.log2 +
    ((exponent.toNat : Int) - ((1023 + 52 : Nat) : Int))
  omega

/-- A number of 53 bits is kept by its bit pattern. -/
theorem atLeastHalf_pack {sign : Sign} {mantissa : Nat} {exponent : Int} {positive : 0 < mantissa}
    (wide : mantissa.log2 = 52) (least : -52 ≤ exponent) (most : exponent ≤ 971) :
    AtLeastHalf (Float.Model.pack (.finite sign mantissa exponent positive)).unpack := by
  have stored := @toNat_ofNat_exponent (storedExponent exponent)
    (by unfold storedExponent; omega)
  have room : ¬ 2048 ≤ storedExponent exponent + 1 := by
    unfold storedExponent
    omega
  have notLargest : BitVec.ofNat 11 (storedExponent exponent) ≠ -1#11 := by
    intro largest
    have same := congrArg BitVec.toNat largest
    rw [stored] at same
    simp at same
    omega
  have upper : 1023 ≤ storedExponent exponent := by
    unfold storedExponent
    omega
  show AtLeastHalf (UnpackedFloat.unpack Format.binary64
    (UnpackedFloat.pack Format.binary64 (.finite sign mantissa exponent positive)))
  rw [pack_finite, if_neg room, if_pos (by rw [wide])]
  refine atLeastHalf_unpack ?_ ?_
  · rwa [unpackExponent_packComponents]
  · rwa [unpackExponent_packComponents, stored]

/-- None of the powers of ten that a double can hold is small. -/
theorem atLeastHalf_powerOfTen {k : Nat} (small : k ≤ 308) :
    AtLeastHalf (Float.ofScientific 1 false k).toModel.unpack := by
  have edges : ∀ k : Fin 309, k.val ≤ 22 ∨ k.val = 308 →
      AtLeastHalf (Float.ofScientific 1 false k).toModel.unpack := by decide +kernel
  by_cases edge : k ≤ 22 ∨ k = 308
  · exact edges ⟨k, Nat.lt_succ_of_le small⟩ edge
  · have least : 2 ^ 53 ≤ 1 <<< 53 * 10 ^ k := Nat.le_mul_of_pos_right _ (Nat.pow_pos (by decide))
    have nonzero : 1 <<< 53 * 10 ^ k ≠ 0 := Nat.ne_of_gt (Nat.lt_of_lt_of_le (by decide) least)
    have wide : 53 ≤ (1 <<< 53 * 10 ^ k).log2 := (Nat.le_log2 nonzero).mpr least
    have bits : (1 <<< 53 * 10 ^ k).log2 < 1074 := by
      have power := Nat.pow_le_pow_right (n := 10) (by decide) (show k ≤ 307 by omega)
      refine (Nat.log2_lt nonzero).mpr (Nat.lt_of_le_of_lt (Nat.mul_le_mul_left _ power) ?_)
      decide +kernel
    obtain ⟨mantissa, exponent, positive, rounded, normal, low, high⟩ :=
      @roundWithAccuracy_of_wide (1 <<< 53 * 10 ^ k) (-53 + 0) (.positive * .positive) .exact
        (by omega) (by simp only [totalExponent]; omega)
    simp only [totalExponent] at high
    have same : (Float.ofScientific 1 false k).toModel =
        Float.Model.pack (.finite (.positive * .positive) mantissa exponent positive) := by
      rw [← rounded, Float.ofScientific, dif_neg (by omega)]
      show Float.Model.pack (UnpackedFloat.ofScientific Format.binary64 1 (k : Int)) = _
      rw [UnpackedFloat.ofScientific, dif_neg (by decide), if_neg ?notHuge, if_neg ?notTiny,
        if_pos (Int.natCast_nonneg k)]
      case notHuge =>
        show ¬(k : Int) > 2048
        omega
      case notTiny =>
        show ¬(k : Int) < -(2048 + 0)
        omega
      rfl
    rw [same]
    exact atLeastHalf_pack normal low (by omega)

theorem log2_mantissa_unpack {bits : BitVec 64} {sign : Sign} {mantissa : Nat} {exponent : Int}
    {positive : 0 < mantissa}
    (unpacked : UnpackedFloat.unpack Format.binary64 bits =
      .finite sign mantissa exponent positive) :
    mantissa.log2 ≤ 52 := by
  suffices below : mantissa < 2 ^ 53 from
    Nat.le_of_lt_succ ((Nat.log2_lt (Nat.ne_of_gt positive)).mpr below)
  have fraction := (@unpackMantissa Format.binary64 bits).isLt
  change _ < 2 ^ 52 at fraction
  have notLargest := @unpackExponent_ne_largest bits (by rw [unpacked]; rfl)
  unfold UnpackedFloat.unpack at unpacked
  dsimp only at unpacked
  rw [if_neg notLargest] at unpacked
  by_cases least : @unpackExponent Format.binary64 bits = 0#11
  · rw [if_pos least] at unpacked
    by_cases zero : @unpackMantissa Format.binary64 bits = 0#52
    · rw [dif_pos zero] at unpacked
      cases unpacked
    · rw [dif_neg zero] at unpacked
      cases unpacked
      omega
  · rw [if_neg least] at unpacked
    cases unpacked
    exact (1#1 ++ @unpackMantissa Format.binary64 bits).isLt

/-- A quotient is rounded to an exponent that is higher by one at most. -/
theorem exponentAtMost_divCore {m d : Nat} {e f bound : Int} (sign : Sign) (wide : -1074 ≤ bound)
    (bits : m.log2 ≤ 52) (fits : e ≤ bound) (large : 0 ≤ d.log2 + f) :
    ExponentAtMost (bound + 1)
      (roundWithAccuracy Format.binary64 sign (divCore Format.binary64 m e d f).1
        (divCore Format.binary64 m e d f).2.1 (divCore Format.binary64 m e d f).2.2) := by
  simp only [divCore, targetExponent_eq]
  generalize raised : min (e - f) (max (totalExponent m e - totalExponent d f - 53) (-1074)) = q
  simp only [totalExponent] at raised
  have shifted := log2_shiftLeft_le m (e - f - q).toNat
  refine exponentAtMost_roundWithAccuracy _ _ (by omega) wide ?_
  rw [totalExponent]
  by_cases zero : m <<< (e - f - q).toNat / d = 0
  · rw [zero]
    simp
    omega
  · have quotient := log2_div_add_log2_le zero
    omega

/-- A division by something that is not small moves the exponent up by one at most. -/
theorem doubleAtMost_div {bound : Int} {x y : Float} (wide : -1074 ≤ bound) (small : bound ≤ 970)
    (fits : DoubleAtMost bound x) (large : AtLeastHalf y.toModel.unpack) :
    DoubleAtMost (bound + 1) (x / y) := by
  refine exponentAtMost_pack (by omega) ?_ (by omega)
  have bits {sign mantissa exponent positive}
      (unpacked : x.toModel.unpack = .finite sign mantissa exponent positive) :
      mantissa.log2 ≤ 52 :=
    log2_mantissa_unpack unpacked
  change ExponentAtMost bound x.toModel.unpack at fits
  generalize x.toModel.unpack = a at fits bits ⊢
  generalize y.toModel.unpack = b at large ⊢
  cases b with
  | zero sign => exact large.elim
  | infinity sign => exact large.elim
  | notANumber => exact large.elim
  | finite divisorSign d f divisorPositive =>
      cases a with
      | infinity sign => exact fits.elim
      | notANumber => exact fits.elim
      | zero sign => trivial
      | finite sign m e positive => exact exponentAtMost_divCore _ wide (bits rfl) fits large

end Caretaker.Decimal
