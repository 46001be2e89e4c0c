import Caretaker.Proofs.Store.Rows

/-!
# Reading many rows

A query picks rows, puts them in order and reads them one by one; the first row that
cannot be read spoils the whole answer.  Rows that were written from values let the
query be carried out on the values: picking, sorting and reading commute with
writing.
-/

namespace Caretaker.Store

section

variable {ρ α β : Type} {read : ρ → Except StoreError α}

/-! ## One row after the other -/

/-- Rows that read the same give the same answer. -/
theorem readAll_map {write : ρ → ρ} (same : ∀ row, read (write row) = read row) (rows : List ρ) :
    readAll read (rows.map write) = readAll read rows := by
  induction rows with
  | nil => rfl
  | cons row rest ih => rw [List.map_cons, readAll, readAll, same, ih]

/-- There is an answer exactly when no row spoils it. -/
theorem readAll_succeeds_iff {rows : List ρ} :
    (∃ values, readAll read rows = .ok values) ↔ ∀ row ∈ rows, ∃ value, read row = .ok value := by
  induction rows with
  | nil => simp [readAll]
  | cons row rest ih =>
      simp only [readAll, bind_eq_ok_iff, pure_eq_ok_iff, List.forall_mem_cons, ← ih]
      grind

theorem readOne_succeeds_iff {found : Option ρ} :
    (∃ value, readOne read found = .ok value) ↔ ∀ row ∈ found, ∃ value, read row = .ok value := by
  cases found with
  | none => simp [readOne]
  | some row =>
      simp only [readOne, bind_eq_ok_iff, pure_eq_ok_iff, Option.mem_def, Option.some.injEq]
      grind

/-- Reading rows that were written from values gives what is kept of the values,
unless one of them cannot be read. -/
theorem readAll_map_eq_ok_iff {write : β → ρ} {kept : β → α} {Readable : β → Prop}
    (reads : ∀ value found, read (write value) = .ok found ↔ Readable value ∧ kept value = found)
    {values : List β} {found : List α} :
    readAll read (values.map write) = .ok found ↔
      (∀ value ∈ values, Readable value) ∧ values.map kept = found := by
  induction values generalizing found with
  | nil => simp [readAll]
  | cons value rest ih =>
      simp only [List.map_cons, readAll, bind_eq_ok_iff, pure_eq_ok_iff, ih, reads,
        List.forall_mem_cons]
      grind

end

/-! ## Order -/

section

variable {α : Type}

/-- A stable sort keeps what is in order already: of the sorted list, the part that a
test picks is the part it picks of the list itself, if that part is sorted. -/
theorem filter_mergeSort {le : α → α → Bool} (trans : ∀ a b c, le a b → le b c → le a c)
    (total : ∀ a b, le a b || le b a) {picked : α → Bool} {values : List α}
    (sorted : (values.filter picked).Pairwise fun a b => le a b) :
    (values.mergeSort le).filter picked = values.filter picked := by
  have kept : (values.filter picked).Sublist ((values.mergeSort le).filter picked) := by
    have within := List.sublist_mergeSort trans total sorted List.filter_sublist
    simpa using within.filter picked
  have sameLength : (values.filter picked).length = ((values.mergeSort le).filter picked).length :=
    ((List.mergeSort_perm values le).filter picked).length_eq.symm
  exact (kept.eq_of_length sameLength).symm

/-- Pairs compared by their texts, and under equal texts by what comes second. -/
def textFirst (le : α → α → Bool) (a b : String × α) : Bool :=
  decide (a.1 < b.1) || (a.1 == b.1 && le a.2 b.2)

theorem textsLE_eq_textFirst : textsLE = textFirst fun a b => decide (a ≤ b) :=
  rfl

theorem textFirst_trans {le : α → α → Bool} (trans : ∀ a b c, le a b → le b c → le a c)
    (a b c : String × α) (first : textFirst le a b) (second : textFirst le b c) :
    textFirst le a c := by
  obtain ⟨text, rest⟩ := a
  obtain ⟨text', rest'⟩ := b
  obtain ⟨text'', rest''⟩ := c
  simp only [textFirst, Bool.or_eq_true, Bool.and_eq_true, decide_eq_true_eq, beq_iff_eq] at *
  rcases first with smaller | ⟨rfl, smaller⟩ <;> rcases second with smaller' | ⟨rfl, smaller'⟩
  · exact .inl (String.lt_trans smaller smaller')
  · exact .inl smaller
  · exact .inl smaller'
  · exact .inr ⟨rfl, trans _ _ _ smaller smaller'⟩

theorem textFirst_total {le : α → α → Bool} (total : ∀ a b, le a b || le b a)
    (a b : String × α) : textFirst le a b || textFirst le b a := by
  obtain ⟨text, rest⟩ := a
  obtain ⟨text', rest'⟩ := b
  simp only [textFirst, Bool.or_eq_true, Bool.and_eq_true, decide_eq_true_eq, beq_iff_eq]
  by_cases same : text = text'
  · rcases (Bool.or_eq_true _ _).mp (total rest rest') with smaller | larger
    · exact .inl (.inr ⟨same, smaller⟩)
    · exact .inr (.inr ⟨same.symm, larger⟩)
  · rcases String.le_total text text' with smaller | larger
    · exact .inl (.inl (String.not_le.mp fun larger => same (String.le_antisymm smaller larger)))
    · exact .inr (.inl (String.not_le.mp fun smaller => same (String.le_antisymm smaller larger)))

/-- Pairs that are level have equal texts, and what comes second is level too. -/
theorem textFirst_antisymm {le : α → α → Bool} {a b : String × α} (first : textFirst le a b)
    (second : textFirst le b a) : a.1 = b.1 ∧ le a.2 b.2 = true ∧ le b.2 a.2 = true := by
  simp only [textFirst, Bool.or_eq_true, Bool.and_eq_true, decide_eq_true_eq, beq_iff_eq] at *
  rcases first with smaller | ⟨same, below⟩
  · rcases second with larger | ⟨same, -⟩
    · exact absurd larger (String.lt_asymm smaller)
    · exact absurd (same ▸ smaller) (String.lt_irrefl _)
  · rcases second with larger | ⟨-, above⟩
    · exact absurd (same ▸ larger) (String.lt_irrefl _)
    · exact ⟨same, below, above⟩

theorem textsLE_antisymm {a b : String × String} (first : textsLE a b) (second : textsLE b a) :
    a = b := by
  rw [textsLE_eq_textFirst] at *
  obtain ⟨same, below, above⟩ := textFirst_antisymm first second
  exact Prod.ext same (String.le_antisymm (of_decide_eq_true below) (of_decide_eq_true above))

theorem textsLE_trans (a b c : String × String) (first : textsLE a b) (second : textsLE b c) :
    textsLE a c := by
  rw [textsLE_eq_textFirst] at *
  apply textFirst_trans _ a b c first second
  intro x y z below below'
  exact decide_eq_true (String.le_trans (of_decide_eq_true below) (of_decide_eq_true below'))

theorem textsLE_total (a b : String × String) : textsLE a b || textsLE b a := by
  rw [textsLE_eq_textFirst]
  apply textFirst_total
  intro x y
  simpa using String.le_total x y

@[simp]
theorem mem_oldestFirst {key : α → String × String} {value : α} {values : List α} :
    value ∈ oldestFirst key values ↔ value ∈ values :=
  List.mem_mergeSort

theorem oldestFirst_perm (key : α → String × String) (values : List α) :
    (oldestFirst key values).Perm values :=
  List.mergeSort_perm ..

theorem oldestFirst_pairwise (key : α → String × String) (values : List α) :
    (oldestFirst key values).Pairwise fun a b => textsLE (key a) (key b) :=
  List.pairwise_mergeSort (fun a b c => textsLE_trans (key a) (key b) (key c))
    (fun a b => textsLE_total (key a) (key b)) values

/-- Rows are sorted as the values they were written from. -/
theorem oldestFirst_map {ρ : Type} (key : ρ → String × String) (write : α → ρ)
    (values : List α) :
    oldestFirst key (values.map write) =
      (oldestFirst (fun value => key (write value)) values).map write := by
  rw [oldestFirst, oldestFirst, List.map_mergeSort]
  exact fun _ _ _ _ => rfl

end

end Caretaker.Store
