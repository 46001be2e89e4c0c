import Caretaker.Proofs.Calendar.StoredForm

/-!
# The wire form of instants

The wire text of every instant is read back as that instant.  The lenient reader takes
shorter numbers and blanks as well, but where a text has full numbers and no blanks, it
takes exactly what was written: a year of four digits, or a signed one of any length,
two digits for every other number, and the digits of a second that are needed.
-/

namespace Caretaker.Calendar

open Text

/-! ## Characters that are no blanks -/

theorem isWhiteSpace_of_digit {c : Char} (digit : isDecimalDigit c = true) :
    isWhiteSpace c = false := by
  have range : '0' ≤ c ∧ c ≤ '9' := by
    unfold isDecimalDigit decimalDigit? at digit
    split at digit
    · assumption
    · cases digit
  have low : 48 ≤ c.toNat := range.1
  have high : c.toNat ≤ 57 := range.2
  simp [isWhiteSpace]
  omega

theorem trimStart_cons {c : Char} (mark : isWhiteSpace c = false) (rest : List Char) :
    trimStart (c :: rest) = c :: rest := by
  simp [trimStart, mark]

/-- A run of digits starts with a digit. -/
theorem fixedDigits_eq_cons {base width n : Nat} (wide : 0 < width) :
    ∃ c rest, fixedDigits base width n = c :: rest := by
  cases digits : fixedDigits base width n with
  | nil =>
      have length := length_fixedDigits base width n
      rw [digits] at length
      exact absurd length (Nat.ne_of_lt wide)
  | cons c rest => exact ⟨c, rest, rfl⟩

theorem head_fixedDigits {width n : Nat} (wide : 0 < width) :
    ∃ c rest, fixedDigits 10 width n = c :: rest ∧ isDecimalDigit c = true := by
  obtain ⟨c, rest, digits⟩ : ∃ c rest, fixedDigits 10 width n = c :: rest :=
    fixedDigits_eq_cons wide
  exact ⟨c, rest, digits, all_isDecimalDigit_fixedDigits width n c (by simp [digits])⟩

theorem trimStart_fixedDigits {width : Nat} (wide : 0 < width) (n : Nat) (rest : List Char) :
    trimStart (fixedDigits 10 width n ++ rest) = fixedDigits 10 width n ++ rest := by
  obtain ⟨c, digits, starts, digit⟩ := head_fixedDigits (n := n) wide
  rw [starts, List.cons_append]
  exact trimStart_cons (isWhiteSpace_of_digit digit) _

namespace Instant

/-! ## Reading fields -/

theorem takeShort_fixedDigits {n : Nat} (fits : n < Nat.pow 10 2) (rest : List Char) :
    takeShort (fixedDigits 10 2 n ++ rest) = some (n, rest) := by
  rw [takeShort, trimStart_fixedDigits (by decide)]
  exact takeNumber_append (by decide) fits (by decide) (Nat.le_refl _) (.inl rfl)

theorem takeChar_trimStart {c : Char} (mark : isWhiteSpace c = false) (rest : List Char) :
    takeChar c (trimStart (c :: rest)) = some rest := by
  rw [trimStart_cons mark]
  exact takeChar_cons c rest

/-- The year is taken as it was written, with its sign if it has one. -/
theorem takeYear_yearText (year : Int) (rest : List Char) :
    takeYear (trimStart (yearText year ++ '-' :: rest)) = some (year, '-' :: rest) := by
  have ends : ('-' :: rest).takeWhile isDecimalDigit = [] := rfl
  rw [yearText]
  split
  · rename_i legible
    have fits : year.toNat < Nat.pow 10 4 := by
      show year.toNat < 10000
      omega
    rw [padded_eq_fixedDigits (by decide) fits, trimStart_fixedDigits (by decide)]
    obtain ⟨c, digits, starts, digit⟩ : ∃ c rest,
        fixedDigits 10 4 year.toNat = c :: rest ∧ isDecimalDigit c = true :=
      head_fixedDigits (by decide)
    have read : takeNumber 1 4 (fixedDigits 10 4 year.toNat ++ '-' :: rest) =
        some (year.toNat, '-' :: rest) :=
      takeNumber_append (by decide) fits (by decide) (Nat.le_refl _) (.inl rfl)
    rw [starts] at read ⊢
    rw [List.cons_append] at read ⊢
    rw [takeYear]
    · rw [read, Option.map_some]
      show some ((year.toNat : Int), '-' :: rest) = some (year, '-' :: rest)
      rw [Int.toNat_of_nonneg legible.1]
    · rintro _ ⟨⟩
      cases digit
    · rintro _ ⟨⟩
      cases digit
  · rename_i outside
    have read (sign : Char) : takeNumber 1 (padded 4 year.natAbs ++ '-' :: rest).length
        (padded 4 year.natAbs ++ '-' :: rest) = some (year.natAbs, '-' :: rest) :=
      takeNumber_append (Nat.lt_of_lt_of_le (by decide) (Nat.le_max_left 4 _)) (lt_pow_padded 4 _)
        (Nat.le_trans (by decide) (Nat.le_max_left 4 _)) (by simp [padded]) (.inr ends)
    split
    · rename_i negative
      rw [List.cons_append, trimStart_cons (by decide), takeYear, read '-', Option.map_some]
      show some (-(year.natAbs : Int), '-' :: rest) = some (year, '-' :: rest)
      congr 2
      omega
    · rename_i positive
      rw [List.cons_append, trimStart_cons (by decide), takeYear, read '+', Option.map_some]
      show some ((year.natAbs : Int), '-' :: rest) = some (year, '-' :: rest)
      congr 2
      omega

/-- The digits of a second that were written give back its nanoseconds. -/
theorem takeFraction_fractionText {nano : Nat} (fits : nano < 1000000000) :
    takeFraction (fractionText nano ++ ['Z']) = some (nano, ['Z']) := by
  rw [fractionText]
  split
  · rename_i zero
    rw [zero]
    rfl
  · split
    · rename_i millis
      have small : nano / 1000000 < Nat.pow 10 3 := by
        show nano / 1000000 < 1000
        omega
      rw [List.cons_append, takeFraction_append (by decide) (by decide) small]
      congr 2
      show nano / 1000000 * 1000000 = nano
      omega
    · split
      · rename_i micros
        have small : nano / 1000 < Nat.pow 10 6 := by
          show nano / 1000 < 1000000
          omega
        rw [List.cons_append, takeFraction_append (by decide) (by decide) small]
        congr 2
        show nano / 1000 * 1000 = nano
        omega
      · rw [List.cons_append]
        exact takeFraction_fixedDigits fits

/-! ## Reading back -/

/-- The fields of a wire text.  All of them but the year and the fraction have two
digits. -/
theorem toList_wireText (t : Instant) :
    t.wireText.toList =
      yearText t.date.year ++ '-' :: (fixedDigits 10 2 t.date.month ++
        '-' :: (fixedDigits 10 2 t.date.day ++ 'T' :: (fixedDigits 10 2 t.hour ++
          ':' :: (fixedDigits 10 2 t.minute ++ ':' :: (fixedDigits 10 2 t.second ++
            (fractionText t.nano ++ ['Z'])))))) := by
  simp [wireText, secondText,
    padded_eq_fixedDigits (by decide) t.month_fits, padded_eq_fixedDigits (by decide) t.day_fits,
    padded_eq_fixedDigits (by decide) t.hour_fits,
    padded_eq_fixedDigits (by decide) t.minute_fits,
    padded_eq_fixedDigits (by decide) t.second_fits]

/-- Every instant reads back from its wire text. -/
theorem readWire?_wireText (t : Instant) : readWire? t.wireText = some t := by
  rw [readWire?, toList_wireText]
  apply bind_of_some (takeYear_yearText _ _)
  apply bind_of_some (takeChar_trimStart (by decide) _)
  apply bind_of_some (takeShort_fixedDigits t.month_fits _)
  apply bind_of_some (takeChar_trimStart (by decide) _)
  apply bind_of_some (takeShort_fixedDigits t.day_fits _)
  apply bind_of_some (takeTimeMark_cons _)
  apply bind_of_some (takeShort_fixedDigits t.hour_fits _)
  apply bind_of_some (takeChar_trimStart (by decide) _)
  apply bind_of_some (takeShort_fixedDigits t.minute_fits _)
  apply bind_of_some (takeChar_trimStart (by decide) _)
  apply bind_of_some (takeShort_fixedDigits t.second_fits _)
  apply bind_of_some (takeFraction_fractionText t.nano_fits)
  apply bind_of_some (show takeLenientZone (trimStart ['Z']) = some (0, []) by decide)
  apply bind_of_some (Date.of?_self t.date)
  exact ofLocal?_self t

end Instant

end Caretaker.Calendar
