import Caretaker.Proofs.Calendar.Succession
import Caretaker.Proofs.RestrictedPlan
import Caretaker.Proofs.Store.Ascending
import Caretaker.Proofs.Text.ByteOrder

/-!
# Stored texts in the order of their values

The database knows instants and identifiers only as texts, and compares the bytes of these.
Comparing the texts of two instants that can be read back is comparing the instants, and
comparing the texts of two identifiers is comparing the identifiers.  So a list that was
sorted by texts is in the order of creation, whichever writes led to it.
-/

namespace Caretaker

open Calendar Text

/-! ## Bytes of identifiers -/

namespace Uuid

theorem count_eq_bytes : count = Nat.pow 256 16 := by
  decide

/-- The sixteen bytes of an identifier, the highest first. -/
def bytes (id : Uuid) : List UInt8 :=
  (digitValues 256 16 id.value).map UInt8.ofNat

theorem value_lt_bytes (id : Uuid) : id.value < Nat.pow 256 16 :=
  count_eq_bytes ▸ id.bound

/-- Two digits to the base 16 make one to the base 256. -/
theorem hexBytes?_fixedDigits (width n : Nat) :
    hexBytes? (fixedDigits 16 (2 * width) n) = some ((digitValues 256 width n).map UInt8.ofNat) := by
  induction width with
  | zero => rfl
  | succ width ih =>
      -- One more byte stands in front of the others.
      have longer : 2 * (width + 1) = 2 + 2 * width := by omega
      have samePlace : Nat.pow 16 (2 * width) = Nat.pow 256 width := Nat.pow_mul 16 2 width
      have high : hexDigit? (digitChar (n / Nat.pow 256 width / 16 % 16)) = _ :=
        hexDigit?_digitChar (Nat.mod_lt _ (by decide))
      have low : hexDigit? (digitChar (n / Nat.pow 256 width % 16)) = _ :=
        hexDigit?_digitChar (Nat.mod_lt _ (by decide))
      have byte : n / Nat.pow 256 width / 16 % 16 * 16 + n / Nat.pow 256 width % 16 =
          n / Nat.pow 256 width % 256 := by
        omega
      rw [longer, fixedDigits_add, samePlace, Nat.add_comm width 1, digitValues_add]
      simp only [fixedDigits, digitValues, List.nil_append, List.cons_append, hexBytes?, high, low,
        ih, List.map_cons, ← byte]
      rfl

/-- The canonical text has the bytes of the identifier as its digits. -/
theorem hexBytes?_text (id : Uuid) :
    (unhyphenate? id.text.toList).bind hexBytes? = some id.bytes := by
  rw [text, String.toList_ofList, unhyphenate?_hyphenate (length_fixedDigits ..), Option.bind_some,
    bytes, ← hexBytes?_fixedDigits]

/-- Identifiers are ordered as their bytes are. -/
theorem bytes_lt_iff {a b : Uuid} : a.bytes < b.bytes ↔ a < b := by
  have below (id : Uuid) : ∀ d ∈ digitValues 256 16 id.value, d < 256 :=
    lt_of_mem_digitValues id.value_lt_bytes
  rw [bytes, bytes, map_lt_map_iff_of_mem, digitValues_lt_iff a.value_lt_bytes b.value_lt_bytes]
  · rfl
  · exact fun d memberD e memberE => ofNat_eq_iff (below a d memberD) (below b e memberE)
  · exact fun d memberD e memberE => ofNat_lt_iff (below a d memberD) (below b e memberE)

/-- Identifiers are ordered as the bytes of their texts are. -/
theorem bytesOf_text_lt_iff {a b : Uuid} : bytesOf a.text < bytesOf b.text ↔ a < b :=
  bytesOf_lt_iff.trans text_lt_iff

end Uuid

/-! ## Bytes of instants -/

/-- A stored text gives back its own instant, if that one is legible, and an error
otherwise. -/
theorem Stored.instant_storedText (t : Instant) : Stored.instant t.storedText =
    if t.Legible then .ok t else .error (.query (.invalidInstant t.storedText)) := by
  rw [Stored.instant, Instant.readStored?_storedText]
  by_cases legible : t.Legible
  · rw [if_pos legible, if_pos legible]
  · rw [if_neg legible, if_neg legible]

namespace Calendar.Instant

/-- The stored text of the instant is accepted. -/
def Accepted (t : Instant) : Prop :=
  ∃ u, Stored.instant t.storedText = .ok u

theorem Accepted.legible {t : Instant} (accepted : t.Accepted) : t.Legible := by
  obtain ⟨u, read⟩ := accepted
  exact (Stored.instant_eq_ok_iff.mp read).1

/-- Instants whose texts are accepted are ordered as the bytes of these texts are. -/
theorem bytesOf_storedText_lt_iff {s t : Instant} (acceptedS : s.Accepted)
    (acceptedT : t.Accepted) : bytesOf s.storedText < bytesOf t.storedText ↔ s < t :=
  bytesOf_lt_iff.trans (storedText_lt_iff acceptedS.legible acceptedT.legible)

end Calendar.Instant

/-! ## Values and lists of values -/

/-- What the store makes of values is in their order.  The text of an instant gives back that
instant or nothing, and that of an identifier has its bytes.  Comparing the bytes of texts is
comparing instants as they come, and identifiers as their own bytes are.  And the answers of a
store that writes have led to are lists in this order. -/
theorem stored_order_of_values :
    (∀ t : Instant, Stored.instant t.storedText =
        if t.Legible then .ok t else .error (.query (.invalidInstant t.storedText))) ∧
      (∀ s t : Instant, s.Accepted → t.Accepted →
        (bytesOf s.storedText < bytesOf t.storedText ↔ s < t)) ∧
      (∀ s t : Instant, s < t ↔ s.Precedes t) ∧
      (∀ id : Uuid, (Uuid.unhyphenate? id.text.toList).bind hexBytes? = some id.bytes) ∧
      (∀ a b : Uuid, (bytesOf a.text < bytesOf b.text ↔ a < b) ∧ (a < b ↔ a.bytes < b.bytes)) ∧
      ∀ (allowed : Instant → Prop) (store : Store), store.Reachable allowed →
        store.ListsAscending := by
  refine ⟨Stored.instant_storedText, ?_, ?_, Uuid.hexBytes?_text, ?_, ?_⟩
  · exact fun s t acceptedS acceptedT => Instant.bytesOf_storedText_lt_iff acceptedS acceptedT
  · exact fun s t => Instant.lt_iff_precedes
  · exact fun a b => ⟨Uuid.bytesOf_text_lt_iff, Uuid.bytes_lt_iff.symm⟩
  · exact fun allowed store reached => reached.listsAscending

/-- In the middle of the leap second at the end of 2016. -/
def leapSecond : Instant where
  date := ⟨2016, 12, 31, by decide⟩
  hour := 23
  minute := 59
  second := 60
  nano := 500000000
  valid := by decide

theorem isDate_newYear2017 : IsDate 2017 1 1 := by
  decide

/-- The start of 2017. -/
def afterLeapSecond : Instant :=
  Desk.newYear 2017 isDate_newYear2017

/-- The leap second reads back, and its text is before that of the next year; and a store
that writes have led to lists one of two workflows before the other. -/
theorem stored_order_of_leapSecond :
    Stored.instant leapSecond.storedText = .ok leapSecond ∧
      bytesOf leapSecond.storedText < bytesOf afterLeapSecond.storedText ∧
      ∃ found, Plan.twinDesk.store.workflowsOf (Uuid.ofNat 8) = .ok found ∧ found.length = 2 ∧
        found.Pairwise fun a b => Older (a.createdAt, a.id) (b.createdAt, b.id) := by
  obtain ⟨reads, order, -, -, -, lists⟩ := stored_order_of_values
  have readsFirst : Stored.instant leapSecond.storedText = .ok leapSecond := by
    rw [reads, if_pos (by decide)]
  have readsSecond : Stored.instant afterLeapSecond.storedText = .ok afterLeapSecond := by
    rw [reads, if_pos (by decide)]
  have ascending := (lists _ _ Plan.reachable_twinDesk).workflows Plan.workflowsOf_twinDesk
  exact ⟨readsFirst, (order _ _ ⟨_, readsFirst⟩ ⟨_, readsSecond⟩).mpr (by decide),
    _, Plan.workflowsOf_twinDesk, rfl, ascending⟩

end Caretaker
