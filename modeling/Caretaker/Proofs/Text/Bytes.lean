/-!
# The bytes of a text

A text is sent as its UTF-8 bytes.  The bytes of a text are those of its characters, one
after the other, and they are read as the text again.  A character of the ASCII range is
one byte, and every byte of any other character is above that range.
-/

namespace Caretaker.Text

/-- The bytes of a text. -/
def bytesOf (s : String) : List UInt8 :=
  s.toUTF8.toList

theorem loop_eq (bytes : ByteArray) (i : Nat) (read : List UInt8) :
    ByteArray.toList.loop bytes i read = read.reverse ++ bytes.data.toList.drop i := by
  fun_induction ByteArray.toList.loop bytes i read with
  | case1 i read inside inductionHypothesis =>
      have bound : i < bytes.data.toList.length := by simpa using inside
      rw [inductionHypothesis, List.drop_eq_getElem_cons (l := bytes.data.toList) bound]
      simp [ByteArray.get!, inside]
  | case2 i read outside =>
      rw [List.drop_eq_nil_of_le (by simpa using Nat.le_of_not_lt outside), List.append_nil]

theorem bytesOf_eq (s : String) : bytesOf s = s.toByteArray.data.toList := by
  rw [bytesOf, String.toUTF8_eq_toByteArray, ByteArray.toList, loop_eq]
  rfl

theorem bytesOf_append (s t : String) : bytesOf (s ++ t) = bytesOf s ++ bytesOf t := by
  simp [bytesOf_eq, String.toByteArray_append]

theorem bytesOf_ofList (cs : List Char) :
    bytesOf (String.ofList cs) = cs.flatMap String.utf8EncodeChar := by
  rw [bytesOf_eq]
  show cs.utf8Encode.data.toList = _
  rw [List.utf8Encode, List.toList_data_toByteArray]

/-- The bytes of a text are read as that text. -/
theorem fromUTF8?_bytesOf (s : String) : String.fromUTF8? ⟨(bytesOf s).toArray⟩ = some s := by
  have same : (⟨(bytesOf s).toArray⟩ : ByteArray) = s.toByteArray := by
    rw [bytesOf_eq, Array.toArray_toList]
  rw [same, String.fromUTF8?, dif_pos s.isValidUTF8]
  rfl

theorem utf8EncodeChar_of_lt {c : Char} (ascii : c.toNat < 128) :
    String.utf8EncodeChar c = [UInt8.ofNat c.toNat] := by
  have bound : c.val.toNat ≤ 0x7f := Nat.le_of_lt_succ ascii
  rw [String.utf8EncodeChar]
  exact if_pos bound

/-- No byte of a character beyond the ASCII range is in that range. -/
theorem le_of_mem_utf8EncodeChar {c : Char} (beyond : 128 ≤ c.toNat) :
    ∀ b ∈ String.utf8EncodeChar c, 128 ≤ b.toNat := by
  have bound : ¬ c.val.toNat ≤ 0x7f := Nat.not_le_of_lt beyond
  simp only [String.utf8EncodeChar, bound, if_false]
  split
  · simp
    omega
  · split
    · simp
      omega
    · simp
      omega

end Caretaker.Text
