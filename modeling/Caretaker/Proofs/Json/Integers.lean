import Mathlib.Algebra.Group.Int.Defs
import Mathlib.Algebra.Group.Nat.Defs
import Caretaker.Proofs.Json.Lexing

/-!
# Integers in texts

An integer of 64 bits is read back from its text.  Its digits are one token, and all of
them join the significand, since no part of them is larger than the whole.
-/

namespace Caretaker.Json

open Text

/-- The byte of a decimal digit. -/
def digitByte (d : Nat) : UInt8 :=
  UInt8.ofNat (48 + d)

/-! ## The digits of a number -/

theorem utf8EncodeChar_decimal {d : Nat} (small : d < 10) :
    String.utf8EncodeChar (digitChar d) = [digitByte d] := by
  have digits : ∀ d < 10, UInt8.ofNat (digitChar d).toNat = digitByte d := by decide
  rw [utf8EncodeChar_digitChar (Nat.lt_trans small (by decide)), digits d small]

theorem flatMap_fixedDigits (width n : Nat) :
    (fixedDigits 10 width n).flatMap String.utf8EncodeChar =
      (digitValues 10 width n).map digitByte := by
  induction width generalizing n with
  | zero => rfl
  | succ width inductionHypothesis =>
      rw [fixedDigits, digitValues, List.flatMap_append, inductionHypothesis,
        List.flatMap_singleton, utf8EncodeChar_decimal (Nat.mod_lt n (by decide)), List.map_append]
      rfl

theorem bytesOf_ofNat (n : Nat) :
    bytesOf (Text.ofNat n) = (digitValues 10 (decimalWidth n) n).map digitByte := by
  rw [Text.ofNat, bytesOf_ofList, decimal, flatMap_fixedDigits]

theorem lt_ten_of_mem_digitValues {n : Nat} :
    ∀ d ∈ digitValues 10 (decimalWidth n) n, d < 10 :=
  lt_of_mem_digitValues (lt_pow_decimalWidth n)

/-- A positive number starts with a digit that is not zero. -/
theorem digitValues_eq_cons {n : Nat} (positive : 0 < n) :
    ∃ d rest, digitValues 10 (decimalWidth n) n = d :: rest ∧ 0 < d := by
  induction n using decimalWidth.induct with
  | case1 n small =>
      rw [decimalWidth, if_pos small]
      exact ⟨n, [], by rw [digitValues, Nat.mod_eq_of_lt small]; rfl, positive⟩
  | case2 n large inductionHypothesis =>
      obtain ⟨d, rest, digits, positive⟩ := inductionHypothesis (by omega)
      rw [decimalWidth, if_neg large, digitValues, digits]
      exact ⟨d, rest ++ [n % 10], rfl, positive⟩

/-! ## Digits that are read -/

theorem next_digitByte {d : Nat} (small : d < 10) :
    NumberState.next .whole (digitByte d) = some .whole := by
  have digits : ∀ d < 10, NumberState.next .whole (digitByte d) = some .whole := by decide
  exact digits d small

/-- All digits belong to the number. -/
theorem tokensFrom_digits {digits : List Nat} (small : ∀ d ∈ digits, d < 10) :
    ∀ read : List UInt8, tokensFrom (.number .whole read) (digits.map digitByte) =
      [numberToken ((digits.map digitByte).reverse ++ read)] := by
  induction digits with
  | nil => exact fun _ => rfl
  | cons d rest inductionHypothesis =>
      intro read
      obtain ⟨first, others⟩ := List.forall_mem_cons.mp small
      rw [List.map_cons, tokensFrom_cons]
      simp only [LexState.step, next_digitByte first, List.nil_append]
      rw [inductionHypothesis others, List.reverse_cons, List.append_assoc]
      rfl

theorem splitDigits_digits {digits : List Nat} (small : ∀ d ∈ digits, d < 10) :
    splitDigits (digits.map digitByte) = (digits, []) := by
  induction digits with
  | nil => rfl
  | cons d rest inductionHypothesis =>
      obtain ⟨first, others⟩ := List.forall_mem_cons.mp small
      have digit : ∀ d < 10, (48 ≤ digitByte d && digitByte d ≤ 57) = true ∧
          (digitByte d).toNat - 48 = d := by decide
      obtain ⟨inside, value⟩ := digit d first
      rw [List.map_cons, splitDigits, if_pos inside, inductionHypothesis others, value]

theorem le_foldDigits (value : Nat) (digits : List Nat) : value ≤ foldDigits 10 value digits := by
  induction digits generalizing value with
  | nil => exact Nat.le_refl _
  | cons d rest inductionHypothesis =>
      refine Nat.le_trans ?_ (inductionHypothesis (value * 10 + d))
      omega

/-- Digits whose value fits 64 bits all join the significand. -/
theorem joinDigits_of_le {digits : List Nat} : ∀ {significand : Nat},
    foldDigits 10 significand digits ≤ maxSignificand →
      joinDigits significand digits = (foldDigits 10 significand digits, []) := by
  induction digits with
  | nil => exact fun _ => rfl
  | cons d rest inductionHypothesis =>
      intro significand fits
      have within : significand * 10 + d ≤ maxSignificand :=
        Nat.le_trans (le_foldDigits (significand * 10 + d) rest) fits
      rw [joinDigits, if_pos within]
      exact inductionHypothesis fits

/-! ## Integers -/

theorem foldDigits_decimal (n : Nat) :
    foldDigits 10 0 (digitValues 10 (decimalWidth n) n) = n :=
  foldDigits_digitValues (lt_pow_decimalWidth n)

theorem ofBytes_digits {digits : List Nat} (small : ∀ d ∈ digits, d < 10) :
    Literal.ofBytes (digits.map digitByte) = ⟨false, digits, none, none⟩ := by
  have parts := splitDigits_digits small
  cases form : digits.map digitByte with
  | nil =>
      rw [form] at parts
      simp only [Literal.ofBytes, parts]
  | cons b rest =>
      have noMinus : b ≠ 45 := by
        have digit : ∀ d < 10, digitByte d ≠ 45 := by decide
        obtain ⟨d, listed, rfl⟩ := List.mem_map.mp (form ▸ List.mem_cons_self)
        exact digit d (small d listed)
      rw [form] at parts
      simp [Literal.ofBytes, noMinus, parts]

theorem ofBytes_minus_digits {digits : List Nat} (small : ∀ d ∈ digits, d < 10) :
    Literal.ofBytes (45 :: digits.map digitByte) = ⟨true, digits, none, none⟩ := by
  simp only [Literal.ofBytes, splitDigits_digits small]

/-- The first digit of a positive number opens a literal, with or without a sign. -/
theorem starts_digitByte {d : Nat} (small : d < 10) (positive : 0 < d) :
    stepIdle (digitByte d) = (.number .whole [digitByte d], []) ∧
      NumberState.next .sign (digitByte d) = some .whole := by
  have digits : ∀ d < 10, 0 < d → stepIdle (digitByte d) = (.number .whole [digitByte d], []) ∧
      NumberState.next .sign (digitByte d) = some .whole := by
    intro d small positive
    match d with
    | 1 | 2 | 3 | 4 | 5 | 6 | 7 | 8 | 9 => exact ⟨rfl, rfl⟩
  exact digits d small positive

theorem tokens_positive {n : Nat} (positive : 0 < n) :
    tokens (bytesOf (Text.ofNat n)) = [numberToken (bytesOf (Text.ofNat n)).reverse] ∧
      tokens (45 :: bytesOf (Text.ofNat n)) =
        [numberToken (45 :: bytesOf (Text.ofNat n)).reverse] := by
  obtain ⟨d, rest, digits, large⟩ := digitValues_eq_cons positive
  have small : ∀ d' ∈ d :: rest, d' < 10 := digits ▸ lt_ten_of_mem_digitValues
  obtain ⟨first, others⟩ := List.forall_mem_cons.mp small
  obtain ⟨unsigned, signed⟩ := starts_digitByte first large
  rw [bytesOf_ofNat, digits, List.map_cons]
  constructor
  · rw [tokens, tokensFrom_cons, LexState.step, unsigned, tokensFrom_digits others,
      List.reverse_cons]
    rfl
  · show tokensFrom (.number .sign [45]) (digitByte d :: rest.map digitByte) = _
    rw [tokensFrom_cons]
    simp only [LexState.step, signed, tokensFrom_digits others, List.reverse_cons,
      List.append_assoc]
    rfl

theorem numberToken_reverse {bytes : List UInt8} {n : Number}
    (read : (Literal.ofBytes bytes).number? = some n) : numberToken bytes.reverse = .num n := by
  rw [numberToken, List.reverse_reverse, read]

/-- A natural number of 64 bits is read back from its text. -/
theorem Number.readsBack_ofNat {n : Nat} (fits : n < 2 ^ 64) : (Number.int n).ReadsBack := by
  show tokens (bytesOf (Text.ofNat n)) = [.num (.int n)]
  rcases Nat.eq_zero_or_pos n with rfl | positive
  · rw [bytesOf_ofNat, decimalWidth]
    rfl
  · have value := foldDigits_decimal n
    have joined := @joinDigits_of_le (digitValues 10 (decimalWidth n) n) 0
      (by rw [value]; exact Nat.le_pred_of_lt fits)
    rw [(tokens_positive positive).1, numberToken_reverse]
    rw [bytesOf_ofNat, ofBytes_digits lt_ten_of_mem_digitValues, Literal.number?]
    simp only [joined, value, Bool.false_eq_true, if_false]

/-- A negative integer of 64 bits is read back from its text. -/
theorem Number.readsBack_negSucc {n : Nat} (fits : n < 2 ^ 63) :
    (Number.int (.negSucc n)).ReadsBack := by
  show tokens (bytesOf ("-" ++ Text.ofNat (n + 1))) = [.num (.int (.negSucc n))]
  have minus : bytesOf "-" = [45] := by decide +kernel
  have value := foldDigits_decimal (n + 1)
  have joined := @joinDigits_of_le (digitValues 10 (decimalWidth (n + 1)) (n + 1)) 0
    (by rw [value]; exact Nat.le_trans fits (by decide))
  have inRange : ¬(n + 1 = 0 ∨ Nat.pow 2 63 < n + 1) := by
    have : n < Nat.pow 2 63 := fits
    omega
  rw [bytesOf_append, minus, List.singleton_append, (tokens_positive n.succ_pos).2,
    numberToken_reverse]
  rw [bytesOf_ofNat, ofBytes_minus_digits lt_ten_of_mem_digitValues, Literal.number?]
  simp only [joined, value, if_true, if_neg inRange]
  rfl

/-- Every integer that a number can be is read back from its text. -/
theorem Number.readsBack_int {n : Int} (least : -2 ^ 63 ≤ n) (most : n < 2 ^ 64) :
    (Number.int n).ReadsBack := by
  cases n with
  | ofNat n => exact readsBack_ofNat (Int.ofNat_lt.mp most)
  | negSucc n => exact readsBack_negSucc (by omega)

end Caretaker.Json
