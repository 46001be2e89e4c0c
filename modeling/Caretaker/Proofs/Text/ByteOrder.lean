import Caretaker.Proofs.Text.Bytes

/-!
# Texts in the order of their bytes

Texts are compared character by character.  A database compares their bytes.  The two
orders are the same: of two characters the smaller one is encoded by the smaller bytes,
since its first bytes tell how many follow and the others are digits to the base 64, the
highest first.
-/

namespace Caretaker.Text

/-! ## Characters -/

theorem ofNat_lt_iff {m n : Nat} (fitsM : m < 256) (fitsN : n < 256) :
    UInt8.ofNat m < UInt8.ofNat n ↔ m < n := by
  rw [UInt8.lt_iff_toNat_lt, UInt8.toNat_ofNat', UInt8.toNat_ofNat', Nat.mod_eq_of_lt fitsM,
    Nat.mod_eq_of_lt fitsN]

theorem ofNat_eq_iff {m n : Nat} (fitsM : m < 256) (fitsN : n < 256) :
    UInt8.ofNat m = UInt8.ofNat n ↔ m = n := by
  rw [← UInt8.toNat_inj, UInt8.toNat_ofNat', UInt8.toNat_ofNat', Nat.mod_eq_of_lt fitsM,
    Nat.mod_eq_of_lt fitsN]

/-- Numbers are compared by their digits to the base 64, the highest first. -/
theorem lt_digits {v w : Nat} (below : v < w) :
    v / 262144 < w / 262144 ∨ v / 262144 = w / 262144 ∧
      (v / 4096 % 64 < w / 4096 % 64 ∨ v / 4096 % 64 = w / 4096 % 64 ∧
        (v / 64 % 64 < w / 64 % 64 ∨ v / 64 % 64 = w / 64 % 64 ∧ v % 64 < w % 64)) := by
  omega

/-- The bytes of the smaller of two characters are smaller, whatever follows them. -/
theorem utf8EncodeChar_lt {c d : Char} (smaller : c < d) (rest rest' : List UInt8) :
    String.utf8EncodeChar c ++ rest < String.utf8EncodeChar d ++ rest' := by
  have below : c.val.toNat < d.val.toNat := smaller
  have bound : d.val.toNat < 1114112 := by
    have valid := d.valid
    simp only [UInt32.isValidChar, Nat.isValidChar] at valid
    omega
  simp only [String.utf8EncodeChar]
  repeat' split
  all_goals
    simp (disch := omega) only [List.cons_append, List.nil_append, List.cons_lt_cons_iff,
      ofNat_lt_iff, ofNat_eq_iff]
  -- Only two characters of four bytes each have too many digits to compare at once.
  any_goals omega
  rcases lt_digits below with first | ⟨same, first | ⟨same', first | ⟨same'', first⟩⟩⟩ <;> omega

theorem utf8EncodeChar_ne_nil (c : Char) : String.utf8EncodeChar c ≠ [] := by
  simp only [String.utf8EncodeChar]
  repeat' split
  all_goals exact List.cons_ne_nil _ _

/-! ## Texts -/

theorem append_lt_append_left {back back' : List UInt8} (front : List UInt8)
    (smaller : back < back') : front ++ back < front ++ back' := by
  induction front with
  | nil => exact smaller
  | cons b front ih => exact List.cons_lt_cons_iff.mpr (.inr ⟨rfl, ih⟩)

theorem flatMap_utf8EncodeChar_lt {cs ds : List Char} (smaller : cs < ds) :
    cs.flatMap String.utf8EncodeChar < ds.flatMap String.utf8EncodeChar := by
  induction smaller with
  | @nil d ds =>
      rw [List.flatMap_cons, List.flatMap_nil]
      obtain ⟨b, rest, encoded⟩ := List.exists_cons_of_ne_nil (utf8EncodeChar_ne_nil d)
      rw [encoded]
      exact List.nil_lt_cons ..
  | rel first => exact utf8EncodeChar_lt first _ _
  | cons _ ih => exact append_lt_append_left _ ih

theorem bytesOf_lt_of_lt {s t : String} (smaller : s < t) : bytesOf s < bytesOf t := by
  rw [← String.ofList_toList (s := s), ← String.ofList_toList (s := t), bytesOf_ofList, bytesOf_ofList]
  exact flatMap_utf8EncodeChar_lt (String.lt_iff.mp smaller)

/-- Texts are ordered as their bytes are. -/
theorem bytesOf_lt_iff {s t : String} : bytesOf s < bytesOf t ↔ s < t := by
  constructor
  · intro smaller
    rw [← String.not_le]
    intro notSmaller
    by_cases same : s = t
    · rw [same] at smaller
      exact List.lt_irrefl _ smaller
    · have larger : t < s := String.not_le.mp fun atMost =>
        same (String.le_antisymm atMost notSmaller)
      exact List.lt_asymm smaller (bytesOf_lt_of_lt larger)
  · exact bytesOf_lt_of_lt

end Caretaker.Text
