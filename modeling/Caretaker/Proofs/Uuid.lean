import Caretaker.Proofs.Text.Digits
import Caretaker.Uuid

/-!
# Texts of identifiers

The canonical text of an identifier reads back as the identifier, so that different
identifiers have different texts, and texts are ordered as the identifiers are.
-/

namespace Caretaker.Uuid

open Text

theorem count_eq : count = Nat.pow 16 32 := by
  decide

@[ext]
theorem ext {a b : Uuid} (same : a.value = b.value) : a = b := by
  cases a
  cases b
  simpa using same

/-- Numbers that do not wrap have different identifiers. -/
theorem eq_of_ofNat_eq {m n : Nat} (boundM : m < count) (boundN : n < count)
    (same : ofNat m = ofNat n) : m = n := by
  have values : m % count = n % count := congrArg value same
  rwa [Nat.mod_eq_of_lt boundM, Nat.mod_eq_of_lt boundN] at values

theorem value_lt (id : Uuid) : id.value < Nat.pow 16 32 :=
  count_eq ▸ id.bound

/-! ## Hyphens -/

/-- Thirty-two digits fall into the five groups of the canonical text. -/
theorem exists_groups {digits : List Char} (full : digits.length = 32) :
    ∃ a b c d e : List Char,
      digits = a ++ (b ++ (c ++ (d ++ e))) ∧
        a.length = 8 ∧ b.length = 4 ∧ c.length = 4 ∧ d.length = 4 ∧ e.length = 12 := by
  refine ⟨digits.take 8, (digits.drop 8).take 4, (digits.drop 12).take 4,
    (digits.drop 16).take 4, digits.drop 20, ?_, ?_⟩
  · have dropped (i : Nat) : digits.drop i = (digits.drop i).take 4 ++ digits.drop (i + 4) := by
      rw [← List.drop_drop, List.take_append_drop]
    rw [← dropped 16, ← dropped 12, ← dropped 8, List.take_append_drop]
  · simp [full]

/-- The groups with hyphens between them. -/
theorem hyphenate_groups {a b c d : List Char} (lengthA : a.length = 8) (lengthB : b.length = 4)
    (lengthC : c.length = 4) (lengthD : d.length = 4) (e : List Char) :
    hyphenate (a ++ (b ++ (c ++ (d ++ e)))) =
      a ++ '-' :: (b ++ '-' :: (c ++ '-' :: (d ++ '-' :: e))) := by
  simp [hyphenate, List.drop_append, lengthA, lengthB, lengthC, lengthD,
    List.drop_eq_nil_of_le]

@[simp]
theorem length_hyphenate {digits : List Char} (full : digits.length = 32) :
    (hyphenate digits).length = 36 := by
  simp [hyphenate, full]

/-- Taking the hyphens out again gives the digits. -/
theorem unhyphenate?_hyphenate {digits : List Char} (full : digits.length = 32) :
    unhyphenate? (hyphenate digits) = some digits := by
  have fullText := length_hyphenate full
  obtain ⟨a, b, c, d, e, rfl, lengthA, lengthB, lengthC, lengthD, lengthE⟩ := exists_groups full
  rw [hyphenate_groups lengthA lengthB lengthC lengthD] at fullText ⊢
  simp [unhyphenate?, List.drop_append, List.getElem?_append, List.getElem?_cons, lengthA,
    lengthB, lengthC, lengthD, lengthE, List.drop_eq_nil_of_le]

/-! ## Reading back -/

/-- The canonical text of an identifier reads back as that identifier. -/
theorem parse?_text (id : Uuid) : parse? id.text = some id := by
  have full : (fixedDigits 16 32 id.value).length = 32 := length_fixedDigits ..
  have read : ofDigits? (fixedDigits 16 32 id.value) = some id := by
    have values := mapM_fixedDigits (by decide : 0 < 16)
      (fun d small => hexDigit?_digitChar small) 32 id.value
    simp only [ofDigits?, full, if_true, values, Option.map_some,
      foldDigits_digitValues id.value_lt, Option.some.injEq]
    exact ext (Nat.mod_eq_of_lt id.bound)
  simp [parse?, text, length_hyphenate full, unhyphenate?_hyphenate full, read]

theorem text_injective : Function.Injective text := by
  intro a b same
  have read := congrArg parse? same
  rw [parse?_text, parse?_text] at read
  exact Option.some.inj read

@[simp]
theorem text_inj {a b : Uuid} : a.text = b.text ↔ a = b :=
  text_injective.eq_iff

@[simp]
theorem text_beq_text (a b : Uuid) : (a.text == b.text) = decide (a = b) := by
  by_cases same : a = b <;> simp [same]

@[simp]
theorem text_bne_text (a b : Uuid) : (a.text != b.text) = decide (a ≠ b) := by
  simp [bne]

/-! ## Order -/

/-- Hyphens stand in the same places of all texts, so they decide no comparison. -/
theorem hyphenate_lt_iff {digits₁ digits₂ : List Char} (full₁ : digits₁.length = 32)
    (full₂ : digits₂.length = 32) :
    hyphenate digits₁ < hyphenate digits₂ ↔ digits₁ < digits₂ := by
  obtain ⟨a, b, c, d, e, rfl, lengthA, lengthB, lengthC, lengthD, lengthE⟩ := exists_groups full₁
  obtain ⟨a', b', c', d', e', rfl, lengthA', lengthB', lengthC', lengthD', lengthE'⟩ :=
    exists_groups full₂
  rw [hyphenate_groups lengthA lengthB lengthC lengthD,
    hyphenate_groups lengthA' lengthB' lengthC' lengthD']
  rw [append_lt_append_iff (lengthA.trans lengthA'.symm),
    append_lt_append_iff (lengthA.trans lengthA'.symm), cons_lt_cons_same_iff,
    append_lt_append_iff (lengthB.trans lengthB'.symm),
    append_lt_append_iff (lengthB.trans lengthB'.symm), cons_lt_cons_same_iff,
    append_lt_append_iff (lengthC.trans lengthC'.symm),
    append_lt_append_iff (lengthC.trans lengthC'.symm), cons_lt_cons_same_iff,
    append_lt_append_iff (lengthD.trans lengthD'.symm),
    append_lt_append_iff (lengthD.trans lengthD'.symm), cons_lt_cons_same_iff]

/-- Identifiers are ordered as their texts are. -/
theorem text_lt_iff {a b : Uuid} : a.text < b.text ↔ a < b := by
  rw [text, text, String.lt_iff, String.toList_ofList, String.toList_ofList,
    hyphenate_lt_iff (length_fixedDigits ..) (length_fixedDigits ..),
    fixedDigits_lt_iff (by decide) a.value_lt b.value_lt]
  rfl

end Caretaker.Uuid
