import Caretaker.Proofs.Store.Assembly

/-!
# Seniority

What was created first comes first, and identifiers decide between equal times.  The
database compares the stored texts of both.  As long as the times are legible the two
orders are the same.
-/

namespace Caretaker

open Calendar

/-- Of two creation times with identifiers, the first comes before the second. -/
def Older (a b : Instant × Uuid) : Prop :=
  a.1 < b.1 ∨ a.1 = b.1 ∧ a.2 < b.2

instance (a b : Instant × Uuid) : Decidable (Older a b) :=
  inferInstanceAs (Decidable (_ ∨ _))

theorem not_older_self (a : Instant × Uuid) : ¬Older a a := by
  rintro (earlier | ⟨-, smaller⟩)
  · exact Instant.lt_irrefl _ earlier
  · exact Nat.lt_irrefl _ smaller

/-- Of two different pairs, one is older. -/
theorem eq_of_not_older {a b : Instant × Uuid} (notBefore : ¬Older a b) (notAfter : ¬Older b a) :
    a = b := by
  rw [Older, not_or, not_and] at notBefore notAfter
  have sameTime := Instant.eq_of_not_lt notBefore.1 notAfter.1
  have notSmaller : ¬a.2.value < b.2.value := notBefore.2 sameTime
  have notLarger : ¬b.2.value < a.2.value := notAfter.2 sameTime.symm
  have sameId : a.2 = b.2 :=
    Uuid.ext (Nat.le_antisymm (Nat.not_lt.mp notLarger) (Nat.not_lt.mp notSmaller))
  exact Prod.ext sameTime sameId

/-- Seniority is a matter of two numbers. -/
theorem older_iff_ranks {a b : Instant × Uuid} :
    Older a b ↔ a.1.rank < b.1.rank ∨ a.1.rank = b.1.rank ∧ a.2.value < b.2.value := by
  have sameRank : a.1 = b.1 ↔ a.1.rank = b.1.rank := by
    constructor
    · exact congrArg Instant.rank
    · intro same
      exact Instant.eq_of_not_lt (Int.not_lt.mpr (Int.le_of_eq same.symm))
        (Int.not_lt.mpr (Int.le_of_eq same))
  rw [Older, sameRank]
  rfl

/-- What is older than something that is not outdone by a third is older than the third. -/
theorem Older.of_not_older {a b c : Instant × Uuid} (older : Older a b) (notBefore : ¬Older c b) :
    Older a c := by
  rw [older_iff_ranks] at *
  omega

theorem Older.asymm {a b : Instant × Uuid} (older : Older a b) : ¬Older b a := by
  rw [older_iff_ranks] at *
  omega

namespace Store

theorem textsLE_iff {a b : String × String} :
    textsLE a b = true ↔ ¬(b.1 < a.1 ∨ b.1 = a.1 ∧ b.2 < a.2) := by
  simp only [textsLE, Bool.or_eq_true, Bool.and_eq_true, decide_eq_true_eq, beq_iff_eq, not_or,
    not_and, String.not_lt]
  constructor
  · rintro (smaller | ⟨same, smaller⟩)
    · constructor
      · exact String.not_lt.mp (String.lt_asymm smaller)
      · exact fun same => absurd (same ▸ smaller) (String.lt_irrefl _)
    · constructor
      · exact same ▸ String.le_refl _
      · exact fun _ => smaller
  · rintro ⟨notAfter, rest⟩
    by_cases same : a.1 = b.1
    · exact .inr ⟨same, rest same.symm⟩
    · apply Or.inl
      rw [← String.not_le]
      intro notBefore
      exact same (String.le_antisymm notAfter notBefore)

/-- The database puts one pair before or beside another exactly when the other is not
older. -/
theorem textsLE_iff_not_older {a b : Instant × Uuid} (legibleA : a.1.Legible)
    (legibleB : b.1.Legible) :
    textsLE (a.1.storedText, a.2.text) (b.1.storedText, b.2.text) = true ↔ ¬Older b a := by
  have sameTime : b.1.storedText = a.1.storedText ↔ b.1 = a.1 :=
    ⟨Instant.storedText_inj legibleB legibleA, congrArg _⟩
  rw [Older, textsLE_iff, Instant.storedText_lt_iff legibleB legibleA, sameTime, Uuid.text_lt_iff]

/-- Sorted by their texts, values with legible times and distinct identifiers stand in
order of seniority. -/
theorem oldestFirst_strict {α : Type} {created : α → Instant} {id : α → Uuid} {values : List α}
    (legible : ∀ value ∈ values, (created value).Legible) (distinct : (values.map id).Nodup) :
    (oldestFirst (fun value => ((created value).storedText, (id value).text)) values).Pairwise
      fun a b => Older (created a, id a) (created b, id b) := by
  have sorted := oldestFirst_pairwise
    (fun value => ((created value).storedText, (id value).text)) values
  have apart : (oldestFirst (fun value => ((created value).storedText, (id value).text))
      values).Pairwise fun a b => id a ≠ id b :=
    List.pairwise_map.mp (((oldestFirst_perm _ values).map id).nodup_iff.mpr distinct)
  apply (sorted.and apart).imp_of_mem
  rintro a b memberA memberB ⟨ordered, differ⟩
  have legibleA := legible a (mem_oldestFirst.mp memberA)
  have legibleB := legible b (mem_oldestFirst.mp memberB)
  have notAfter := (textsLE_iff_not_older (a := (created a, id a)) (b := (created b, id b))
    legibleA legibleB).mp ordered
  apply Decidable.byContradiction
  intro notBefore
  exact differ (congrArg Prod.snd (eq_of_not_older notBefore notAfter))

/-- Entries that stand in order of seniority are listed as they stand. -/
theorem oldestEntries_of_pairwise {entries : List Entry}
    (legible : ∀ e ∈ entries, e.workflow.createdAt.Legible)
    (ordered : entries.Pairwise fun a b =>
      Older (a.workflow.createdAt, a.workflow.id) (b.workflow.createdAt, b.workflow.id)) :
    oldestEntries entries = entries := by
  apply List.mergeSort_of_pairwise
  apply ordered.imp_of_mem
  intro a b memberA memberB older
  exact (textsLE_iff_not_older (a := (a.workflow.createdAt, a.workflow.id))
    (b := (b.workflow.createdAt, b.workflow.id)) (legible a memberA) (legible b memberB)).mpr
      older.asymm

/-- The entries that were picked are listed strictly by seniority, if they can be read. -/
theorem Holds.pairwise_older {s : Store} {entries : List Entry} (holds : s.Holds entries)
    {picked : Entry → Bool}
    (legible : ∀ e ∈ entries, picked e = true → AllLegible e.workflow.instants) :
    ((oldestEntries (entries.filter picked)).map fun e => e.workflow.stored).Pairwise
      fun a b => Older (a.createdAt, a.id) (b.createdAt, b.id) := by
  rw [List.pairwise_map]
  apply oldestFirst_strict
  · intro e member
    obtain ⟨listed, isPicked⟩ := List.mem_filter.mp member
    exact legible e listed isPicked _ (List.mem_append_left _ List.mem_cons_self)
  · exact holds.distinctIds.sublist (List.filter_sublist.map _)

end Store

end Caretaker
