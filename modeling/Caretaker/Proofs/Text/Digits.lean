import Caretaker.Text.Digits

/-!
# Digits that read back

A run of digits of fixed width reads back as the number it was written from, and
runs of one width are ordered as their numbers are.  Fields of a text that all have
a fixed width can therefore be compared one after the other.
-/

namespace Caretaker.Text

/-! ## Single digits -/

theorem hexDigit?_digitChar {d : Nat} (small : d < 16) : hexDigit? (digitChar d) = some d := by
  have digits : ∀ d < 16, hexDigit? (digitChar d) = some d := by decide
  exact digits d small

theorem decimalDigit?_digitChar {d : Nat} (small : d < 10) :
    decimalDigit? (digitChar d) = some d := by
  have digits : ∀ d < 10, decimalDigit? (digitChar d) = some d := by decide
  exact digits d small

theorem digitChar_inj {d e : Nat} (smallD : d < 16) (smallE : e < 16) :
    digitChar d = digitChar e ↔ d = e := by
  constructor
  · intro same
    have read := congrArg hexDigit? same
    rw [hexDigit?_digitChar smallD, hexDigit?_digitChar smallE] at read
    exact Option.some.inj read
  · exact congrArg digitChar

/-- Digits are ordered as their characters are. -/
theorem digitChar_lt_iff {d e : Nat} (smallD : d < 16) (smallE : e < 16) :
    digitChar d < digitChar e ↔ d < e := by
  have digits : ∀ d < 16, ∀ e < 16, digitChar d < digitChar e ↔ d < e := by decide
  exact digits d smallD e smallE

/-! ## Runs of fixed width -/

/-- To the base zero, nothing fits a width. -/
theorem base_pos {base width n : Nat} (fits : n < Nat.pow base (width + 1)) : 0 < base := by
  rcases Nat.eq_zero_or_pos base with rfl | positive
  · exact absurd fits (Nat.not_lt_zero n)
  · exact positive

theorem div_fits {base width n : Nat} (fits : n < Nat.pow base (width + 1)) :
    n / base < Nat.pow base width :=
  Nat.div_lt_of_lt_mul (by rw [Nat.mul_comm]; exact fits)

@[simp]
theorem length_fixedDigits (base width n : Nat) : (fixedDigits base width n).length = width := by
  induction width generalizing n with
  | zero => rfl
  | succ width ih => simp [fixedDigits, ih]

/-- The values of the lowest `width` digits of `n`, most significant first. -/
def digitValues (base : Nat) : Nat → Nat → List Nat
  | 0, _ => []
  | width + 1, n => digitValues base width (n / base) ++ [n % base]

theorem foldDigits_append (base value : Nat) (front back : List Nat) :
    foldDigits base value (front ++ back) = foldDigits base (foldDigits base value front) back := by
  simp [foldDigits]

theorem foldDigits_digitValues {base width n : Nat} (fits : n < Nat.pow base width) :
    foldDigits base 0 (digitValues base width n) = n := by
  induction width generalizing n with
  | zero =>
      have zero : n = 0 := Nat.lt_one_iff.mp fits
      simp [digitValues, foldDigits, zero]
  | succ width ih =>
      rw [digitValues, foldDigits_append, ih (div_fits fits)]
      exact Nat.div_add_mod' n base

/-- Reading digits one by one gives their values, whatever reader is used that knows
the digits of the base. -/
theorem mapM_fixedDigits {read : Char → Option Nat} {base : Nat} (positive : 0 < base)
    (reads : ∀ d < base, read (digitChar d) = some d) (width n : Nat) :
    (fixedDigits base width n).mapM read = some (digitValues base width n) := by
  induction width generalizing n with
  | zero => rfl
  | succ width ih =>
      simp [fixedDigits, digitValues, List.mapM_append, ih, reads _ (Nat.mod_lt n positive)]

@[simp]
theorem length_digitValues (base width n : Nat) : (digitValues base width n).length = width := by
  induction width generalizing n with
  | zero => rfl
  | succ width ih => simp [digitValues, ih]

theorem lt_of_mem_digitValues {base width n : Nat} (fits : n < Nat.pow base width) :
    ∀ d ∈ digitValues base width n, d < base := by
  induction width generalizing n with
  | zero => simp [digitValues]
  | succ width ih =>
      rw [digitValues, List.forall_mem_append, List.forall_mem_singleton]
      exact ⟨ih (div_fits fits), Nat.mod_lt n (base_pos fits)⟩

theorem digitValues_injective {base width m n : Nat} (fitsM : m < Nat.pow base width)
    (fitsN : n < Nat.pow base width) (same : digitValues base width m = digitValues base width n) :
    m = n := by
  rw [← foldDigits_digitValues fitsM, same, foldDigits_digitValues fitsN]

theorem fixedDigits_eq_map (base width n : Nat) :
    fixedDigits base width n = (digitValues base width n).map digitChar := by
  induction width generalizing n with
  | zero => rfl
  | succ width ih => rw [fixedDigits, digitValues, List.map_append, ih, List.map_singleton]

/-- A run of decimal digits reads back as its number. -/
theorem natOfDecimal?_fixedDigits {width n : Nat} (wide : 0 < width)
    (fits : n < Nat.pow 10 width) : natOfDecimal? (fixedDigits 10 width n) = some n := by
  have nonempty : (fixedDigits 10 width n).isEmpty = false := by
    rw [List.isEmpty_eq_false_iff, ← List.length_pos_iff, length_fixedDigits]
    exact wide
  simp [natOfDecimal?, nonempty,
    mapM_fixedDigits (by decide) (fun d small => decimalDigit?_digitChar small),
    foldDigits_digitValues fits]

theorem all_isDecimalDigit_fixedDigits (width n : Nat) :
    ∀ c ∈ fixedDigits 10 width n, isDecimalDigit c = true := by
  induction width generalizing n with
  | zero => simp [fixedDigits]
  | succ width ih =>
      intro c member
      rcases List.mem_append.mp member with earlier | last
      · exact ih _ c earlier
      · rw [List.mem_singleton.mp last, isDecimalDigit,
          decimalDigit?_digitChar (Nat.mod_lt n (by decide))]
        rfl

/-- Digits before anything that is no digit are taken as a whole. -/
theorem takeWhile_fixedDigits_append (width n : Nat) {rest : List Char}
    (ends : rest.takeWhile isDecimalDigit = []) :
    (fixedDigits 10 width n ++ rest).takeWhile isDecimalDigit = fixedDigits 10 width n := by
  rw [List.takeWhile_append_of_pos (all_isDecimalDigit_fixedDigits width n), ends,
    List.append_nil]

theorem decimalWidth_le {width n : Nat} (wide : 0 < width) (fits : n < Nat.pow 10 width) :
    decimalWidth n ≤ width := by
  induction width generalizing n with
  | zero => contradiction
  | succ width ih =>
      rw [decimalWidth]
      split
      · exact wide
      · rename_i large
        rcases Nat.eq_zero_or_pos width with rfl | more
        · exact absurd (show n < 10 from fits) large
        · exact Nat.succ_le_succ (ih more (div_fits fits))

/-- A number fits the width of its own digits. -/
theorem lt_pow_decimalWidth (n : Nat) : n < Nat.pow 10 (decimalWidth n) := by
  induction n using decimalWidth.induct with
  | case1 n small =>
      rw [decimalWidth, if_pos small]
      exact small
  | case2 n large ih =>
      rw [decimalWidth, if_neg large]
      show n < 10 ^ (decimalWidth (n / 10) + 1)
      have ih : n / 10 < 10 ^ decimalWidth (n / 10) := ih
      rw [Nat.pow_succ]
      omega

/-- A number fits any width that it is padded to. -/
theorem lt_pow_padded (width n : Nat) : n < Nat.pow 10 (max width (decimalWidth n)) :=
  Nat.lt_of_lt_of_le (lt_pow_decimalWidth n)
    (Nat.pow_le_pow_right (by decide) (Nat.le_max_right _ _))

/-- A number that fits its width is written with exactly that many digits. -/
theorem padded_eq_fixedDigits {width n : Nat} (wide : 0 < width) (fits : n < Nat.pow 10 width) :
    padded width n = fixedDigits 10 width n := by
  rw [padded, Nat.max_eq_left (decimalWidth_le wide fits)]

/-! ## Leading zeros -/

/-- More digits start with those of the quotient. -/
theorem digitValues_add (base extra width n : Nat) :
    digitValues base (extra + width) n =
      digitValues base extra (n / Nat.pow base width) ++ digitValues base width n := by
  induction width generalizing n with
  | zero => simp [digitValues]
  | succ width ih =>
      have quotient : n / base / Nat.pow base width = n / Nat.pow base (width + 1) := by
        rw [Nat.div_div_eq_div_mul, Nat.mul_comm]
        rfl
      rw [Nat.add_succ, digitValues, ih, quotient, List.append_assoc, digitValues]

theorem fixedDigits_add (base extra width n : Nat) :
    fixedDigits base (extra + width) n =
      fixedDigits base extra (n / Nat.pow base width) ++ fixedDigits base width n := by
  rw [fixedDigits_eq_map, digitValues_add, List.map_append, ← fixedDigits_eq_map,
    ← fixedDigits_eq_map]

theorem fixedDigits_zero (base width : Nat) :
    fixedDigits base width 0 = List.replicate width '0' := by
  induction width with
  | zero => rfl
  | succ width ih =>
      rw [fixedDigits, Nat.zero_div, Nat.zero_mod, ih, List.replicate_succ']
      rfl

theorem digitChar_eq {d : Nat} (small : d < 10) : digitChar d = Nat.digitChar d := by
  have digits : ∀ d < 10, digitChar d = Nat.digitChar d := by decide
  exact digits d small

theorem decimal_eq_toDigits (n : Nat) : decimal n = Nat.toDigits 10 n := by
  induction n using decimalWidth.induct with
  | case1 n small =>
      rw [decimal, decimalWidth, if_pos small, Nat.toDigits_of_lt_base small, ← digitChar_eq small,
        fixedDigits, Nat.mod_eq_of_lt small]
      rfl
  | case2 n large ih =>
      have last : n % 10 < 10 := Nat.mod_lt n (by decide)
      rw [decimal, decimalWidth, if_neg large, fixedDigits, digitChar_eq last,
        Nat.toDigits_of_base_le (by decide) (Nat.le_of_not_lt large), ← ih]
      rfl

/-- Padding puts zeros in front, as many as are missing. -/
theorem padded_eq_leftpad (width n : Nat) :
    padded width n = (Nat.toDigits 10 n).leftpad width '0' := by
  have length : (decimal n).length = decimalWidth n := length_fixedDigits _ _ _
  have split : max width (decimalWidth n) = width - decimalWidth n + decimalWidth n := by omega
  have nothing : n / Nat.pow 10 (decimalWidth n) = 0 := Nat.div_eq_of_lt (lt_pow_decimalWidth n)
  rw [padded, split, fixedDigits_add, nothing, fixedDigits_zero, ← decimal, List.leftpad,
    ← decimal_eq_toDigits, length]

/-- Numbers can be told from their digits, whatever zeros stand in front. -/
theorem leftpad_toDigits_injective (width : Nat) :
    Function.Injective fun n => (Nat.toDigits 10 n).leftpad width '0' := by
  intro m n same
  have values := congrArg (fun digits => Nat.ofDigitChars 10 digits 0) same
  simpa [List.leftpad, Nat.ofDigitChars_append] using values

/-! ## Order -/

/-- Lists whose first parts are equally long are compared part by part. -/
theorem append_lt_append_iff {α : Type} [LT α] {front₁ front₂ : List α}
    (sameLength : front₁.length = front₂.length) (back₁ back₂ : List α) :
    front₁ ++ back₁ < front₂ ++ back₂ ↔ front₁ < front₂ ∨ front₁ = front₂ ∧ back₁ < back₂ := by
  induction front₁ generalizing front₂ with
  | nil =>
      obtain rfl := List.eq_nil_of_length_eq_zero sameLength.symm
      simp
  | cons c front₁ ih =>
      cases front₂ with
      | nil => contradiction
      | cons d front₂ =>
          simp only [List.cons_append, List.cons_lt_cons_iff, ih (Nat.succ.inj sameLength),
            List.cons.injEq]
          grind

/-- Texts with the same first character are compared from the second on. -/
theorem cons_lt_cons_same_iff (c : Char) (rest₁ rest₂ : List Char) :
    c :: rest₁ < c :: rest₂ ↔ rest₁ < rest₂ := by
  simp

theorem fixedDigits_injective {base width m n : Nat} (small : base ≤ 16)
    (fitsM : m < Nat.pow base width) (fitsN : n < Nat.pow base width)
    (same : fixedDigits base width m = fixedDigits base width n) : m = n := by
  rcases Nat.eq_zero_or_pos base with rfl | positive
  · cases width with
    | zero => exact (Nat.lt_one_iff.mp fitsM).trans (Nat.lt_one_iff.mp fitsN).symm
    | succ width => exact absurd fitsM (Nat.not_lt_zero m)
  · have reads : ∀ d < base, hexDigit? (digitChar d) = some d :=
      fun d below => hexDigit?_digitChar (Nat.lt_of_lt_of_le below small)
    have values := congrArg (List.mapM hexDigit?) same
    rw [mapM_fixedDigits positive reads, mapM_fixedDigits positive reads] at values
    calc
      m = foldDigits base 0 (digitValues base width m) := (foldDigits_digitValues fitsM).symm
      _ = foldDigits base 0 (digitValues base width n) := by rw [Option.some.inj values]
      _ = n := foldDigits_digitValues fitsN

/-- Lists are compared as before when their members are replaced by others that are ordered
in the same way. -/
theorem map_lt_map_iff_of_mem {α β : Type} [LT α] [LT β] {f : α → β} {xs ys : List α}
    (same : ∀ x ∈ xs, ∀ y ∈ ys, f x = f y ↔ x = y)
    (ordered : ∀ x ∈ xs, ∀ y ∈ ys, f x < f y ↔ x < y) : xs.map f < ys.map f ↔ xs < ys := by
  induction xs generalizing ys with
  | nil => cases ys <;> simp
  | cons x xs ih =>
      cases ys with
      | nil => simp
      | cons y ys =>
          simp only [List.forall_mem_cons] at same ordered
          rw [List.map_cons, List.map_cons, List.cons_lt_cons_iff, List.cons_lt_cons_iff,
            same.1.1, ordered.1.1,
            ih (fun x member => (same.2 x member).2) fun x member => (ordered.2 x member).2]

/-- Digits of one width are ordered as the numbers that have them. -/
theorem digitValues_lt_iff {base width m n : Nat} (fitsM : m < Nat.pow base width)
    (fitsN : n < Nat.pow base width) :
    digitValues base width m < digitValues base width n ↔ m < n := by
  induction width generalizing m n with
  | zero =>
      have zeroM : m = 0 := Nat.lt_one_iff.mp fitsM
      have zeroN : n = 0 := Nat.lt_one_iff.mp fitsN
      simp [digitValues, zeroM, zeroN]
  | succ width ih =>
      have restM : m % base < base := Nat.mod_lt m (base_pos fitsM)
      have restN : n % base < base := Nat.mod_lt n (base_pos fitsN)
      have sameFront : digitValues base width (m / base) = digitValues base width (n / base) ↔
          m / base = n / base :=
        ⟨digitValues_injective (div_fits fitsM) (div_fits fitsN), fun same => by rw [same]⟩
      have lastDigit : [m % base] < [n % base] ↔ m % base < n % base := by
        simp [List.cons_lt_cons_iff]
      rw [digitValues, digitValues, append_lt_append_iff (by simp),
        ih (div_fits fitsM) (div_fits fitsN), sameFront, lastDigit]
      have splitM := Nat.div_add_mod m base
      have splitN := Nat.div_add_mod n base
      constructor
      · rintro (smaller | ⟨same, smaller⟩)
        · have room := Nat.mul_le_mul_left base (Nat.succ_le_of_lt smaller)
          rw [Nat.mul_succ] at room
          omega
        · rw [same] at splitM
          omega
      · intro smaller
        rcases Nat.lt_trichotomy (m / base) (n / base) with below | same | above
        · exact .inl below
        · rw [same] at splitM
          exact .inr ⟨same, by omega⟩
        · have room := Nat.mul_le_mul_left base (Nat.succ_le_of_lt above)
          rw [Nat.mul_succ] at room
          omega

/-- Runs of one width are ordered as the numbers they are written from. -/
theorem fixedDigits_lt_iff {base width m n : Nat} (small : base ≤ 16)
    (fitsM : m < Nat.pow base width) (fitsN : n < Nat.pow base width) :
    fixedDigits base width m < fixedDigits base width n ↔ m < n := by
  have below {k d : Nat} (fits : k < Nat.pow base width) (member : d ∈ digitValues base width k) :
      d < 16 :=
    Nat.lt_of_lt_of_le (lt_of_mem_digitValues fits d member) small
  rw [fixedDigits_eq_map, fixedDigits_eq_map, map_lt_map_iff_of_mem, digitValues_lt_iff fitsM fitsN]
  · exact fun d memberD e memberE => digitChar_inj (below fitsM memberD) (below fitsN memberE)
  · exact fun d memberD e memberE => digitChar_lt_iff (below fitsM memberD) (below fitsN memberE)

/-- A field of fixed width decides the comparison before what follows it. -/
theorem fixedDigits_append_lt_iff {base width m n : Nat} (small : base ≤ 16)
    (fitsM : m < Nat.pow base width) (fitsN : n < Nat.pow base width) (rest₁ rest₂ : List Char) :
    fixedDigits base width m ++ rest₁ < fixedDigits base width n ++ rest₂ ↔
      m < n ∨ m = n ∧ rest₁ < rest₂ := by
  rw [append_lt_append_iff (by simp), fixedDigits_lt_iff small fitsM fitsN]
  constructor
  · rintro (smaller | ⟨same, smaller⟩)
    · exact .inl smaller
    · exact .inr ⟨fixedDigits_injective small fitsM fitsN same, smaller⟩
  · rintro (smaller | ⟨rfl, smaller⟩)
    · exact .inl smaller
    · exact .inr ⟨rfl, smaller⟩

end Caretaker.Text
