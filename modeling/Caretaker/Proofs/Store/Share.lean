import Caretaker.Proofs.Store.Assembly

/-!
# The share of a company

The share of a company is what the tables of workflows hold for it: the rows of its
workflows, each with the row of its action and the rows of its conditions, but without
the identifiers that were generated for the rows of actions and conditions.

The workflows of a company and its candidates depend on its share only.  Whatever else two
stores hold, and in whatever order they hold it, they give the same workflows and the same
candidates for the same share, or report the same row that cannot be read.
-/

namespace Caretaker

/-- The row without the identifier that was generated for it. -/
def ConditionRow.anonymous (row : ConditionRow) : ConditionRow :=
  { row with id := "" }

namespace Store

/-- The two rows without the identifier that was generated for the action. -/
def JoinedRow.anonymous (row : JoinedRow) : JoinedRow :=
  ({ row.1 with actionId := "" }, { row.2 with id := "" })

/-- The workflows of a company as the tables have them, each with its conditions. -/
def share (s : Store) (company : String) : List (JoinedRow × List ConditionRow) :=
  (s.joined.filter fun row => row.1.companyId == company).map fun row =>
    (JoinedRow.anonymous row,
      (s.conditions.filter fun c => c.workflowId == row.1.id).map ConditionRow.anonymous)

end Store

/-- What an entry contributes to the share of its company. -/
def Entry.share (e : Entry) : Store.JoinedRow × List ConditionRow :=
  (Store.JoinedRow.anonymous e.joined, e.conditionRows.map ConditionRow.anonymous)

namespace Store

variable {s s' : Store} {entries entries' picked picked' : List Entry}

/-- A list that was sorted by a relation has only one order. -/
theorem map_eq_of_perm {α β : Type} (le : β → β → Bool) (write : α → β) {values values' : List α}
    (sorted : values.Pairwise fun a b => le (write a) (write b))
    (sorted' : values'.Pairwise fun a b => le (write a) (write b))
    (same : (values.map write).Perm (values'.map write))
    (level : ∀ a ∈ values, ∀ b ∈ values, le (write a) (write b) → le (write b) (write a) →
      write a = write b) : values.map write = values'.map write := by
  apply @List.Perm.eq_of_pairwise β (fun a b => le a b = true)
  · intro a b memberA memberB below above
    obtain ⟨x, memberX, rfl⟩ := List.mem_map.mp memberA
    obtain ⟨y, memberY, rfl⟩ := List.mem_map.mp (same.mem_iff.mpr memberB)
    exact level x memberX y memberY below above
  · exact List.pairwise_map.mpr sorted
  · exact List.pairwise_map.mpr sorted'
  · exact same

/-! ## Shares of entries -/

theorem Holds.filter_conditions (holds : s.Holds entries) {e : Entry} (member : e ∈ entries) :
    (s.conditions.filter fun c => c.workflowId == e.workflow.id.text) = e.conditionRows := by
  rw [holds.conditions, filter_flatMap_conditionRows (· == e.workflow.id.text)]
  simp only [Uuid.text_beq_text]
  rw [filter_key_eq_singleton holds.distinctIds member, List.flatMap_singleton]

theorem Holds.share_eq (holds : s.Holds entries) (company : String) :
    s.share company =
      (entries.filter fun e => e.workflow.companyId.text == company).map Entry.share := by
  rw [share, holds.joined_eq, List.filter_map, List.map_map]
  apply List.map_congr_left
  intro e member
  have own := holds.filter_conditions (List.mem_of_mem_filter member)
  rw [Function.comp_apply, Entry.share, Entry.fst_joined, Entry.id_row, own]

/-- Another company's workflow is not part of the share. -/
theorem Holds.share_addWorkflow (holds : s.Holds entries) (intact : s.Intact) {fresh : Nat → Uuid}
    {w : Workflow} (added : s.addWorkflow fresh w = .ok s') {company : String}
    (foreign : w.companyId.text ≠ company) : s'.share company = s.share company := by
  have notPicked : (w.companyId.text == company) = false := beq_false_of_ne foreign
  rw [(holds.addWorkflow intact added).share_eq, holds.share_eq, List.filter_append,
    List.filter_singleton, notPicked, cond_false, List.append_nil]

theorem key_share (e : Entry) :
    (e.share.1.1.createdAt, e.share.1.1.id) =
      (e.workflow.createdAt.storedText, e.workflow.id.text) :=
  rfl

/-- Equal shares leave only one order for the workflows. -/
theorem map_share_oldestEntries (distinct : (picked.map fun e => e.workflow.id).Nodup)
    (same : (picked.map Entry.share).Perm (picked'.map Entry.share)) :
    (oldestEntries picked).map Entry.share = (oldestEntries picked').map Entry.share := by
  have sorted (values : List Entry) : (oldestEntries values).Pairwise fun a b =>
      textsLE (a.share.1.1.createdAt, a.share.1.1.id) (b.share.1.1.createdAt, b.share.1.1.id) := by
    simp only [key_share]
    exact oldestEntries_pairwise values
  apply map_eq_of_perm (fun a b =>
    textsLE (a.1.1.createdAt, a.1.1.id) (b.1.1.createdAt, b.1.1.id)) Entry.share
  · exact sorted picked
  · exact sorted picked'
  · have sort := (oldestEntries_perm picked).map Entry.share
    have sort' := (oldestEntries_perm picked').map Entry.share
    exact sort.trans (same.trans sort'.symm)
  · intro a memberA b memberB below above
    have level := textsLE_antisymm below above
    rw [key_share, key_share, Prod.mk.injEq, Uuid.text_inj] at level
    rw [List.inj_on_of_nodup_map distinct (mem_oldestEntries.mp memberA)
      (mem_oldestEntries.mp memberB) level.2]

/-! ## Conditions -/

theorem readCondition_anonymous (row : ConditionRow) :
    readCondition row.anonymous = readCondition row :=
  rfl

theorem conditionLE_anonymous (a b : ConditionRow) :
    conditionLE a.anonymous b.anonymous = conditionLE a b :=
  rfl

/-- Two condition rows that are level are the same row. -/
theorem Holds.eq_of_conditionLE (holds : s.Holds entries) {a b : ConditionRow}
    (memberA : a ∈ s.conditions) (memberB : b ∈ s.conditions) (below : conditionLE a b)
    (above : conditionLE b a) : a = b := by
  rw [holds.conditions_eq_placed, List.mem_map] at memberA memberB
  obtain ⟨c, memberC, rfl⟩ := memberA
  obtain ⟨d, memberD, rfl⟩ := memberB
  obtain ⟨e, memberE, placedC⟩ := List.mem_flatMap.mp memberC
  obtain ⟨f, memberF, placedD⟩ := List.mem_flatMap.mp memberD
  rw [PlacedCondition.conditionLE_row] at below above
  obtain ⟨sameOwner, notAfter, notBefore⟩ := textFirst_antisymm below above
  rw [Entry.owner_of_mem_placed placedC, Entry.owner_of_mem_placed placedD, Uuid.text_inj]
    at sameOwner
  have samePosition : c.position = d.position :=
    Nat.le_antisymm (of_decide_eq_true notAfter) (of_decide_eq_true notBefore)
  have foundC := Entry.getElem?_placed placedC
  have foundD := Entry.getElem?_placed placedD
  rw [holds.eq_of_id memberE memberF sameOwner, samePosition, foundD] at foundC
  rw [Option.some.inj foundC]

theorem idTexts_eq_map_share (picked : List Entry) :
    idTexts picked = (picked.map Entry.share).map fun part => part.1.1.id := by
  rw [List.map_map]
  rfl

/-- The entries that some identifiers name are those they were taken from. -/
theorem Holds.filter_idTexts_perm (holds : s.Holds entries) (within : ∀ e ∈ picked, e ∈ entries)
    (distinct : (picked.map fun e => e.workflow.id).Nodup) :
    (entries.filter fun e => (idTexts picked).contains e.workflow.id.text).Perm picked := by
  apply (List.perm_ext_iff_of_nodup _ (List.Nodup.of_map _ distinct)).mpr
  · intro e
    rw [List.mem_filter, List.contains_iff_mem]
    constructor
    · rintro ⟨member, named⟩
      exact (holds.mem_idTexts_iff within member).mp named
    · intro picks
      exact ⟨within e picks, (holds.mem_idTexts_iff within (within e picks)).mpr picks⟩
  · exact (List.Nodup.of_map _ holds.distinctIds).filter _

/-- The condition rows that are read for some workflows are those of their shares. -/
theorem Holds.conditions_perm (holds : s.Holds entries) (within : ∀ e ∈ picked, e ∈ entries)
    (distinct : (picked.map fun e => e.workflow.id).Nodup) :
    ((s.conditions.filter fun row => (idTexts picked).contains row.workflowId).map
      ConditionRow.anonymous).Perm ((picked.map Entry.share).flatMap Prod.snd) := by
  rw [holds.conditions, filter_flatMap_conditionRows, List.map_flatMap, List.flatMap_map]
  exact (holds.filter_idTexts_perm within distinct).flatMap_right _

/-- Equal shares answer alike for the conditions of their workflows. -/
theorem conditionsOf_congr (holds : s.Holds entries) (holds' : s'.Holds entries')
    (intact : s.Intact) (intact' : s'.Intact) (within : ∀ e ∈ picked, e ∈ entries)
    (within' : ∀ e ∈ picked', e ∈ entries') (distinct : (picked.map fun e => e.workflow.id).Nodup)
    (distinct' : (picked'.map fun e => e.workflow.id).Nodup)
    (same : picked.map Entry.share = picked'.map Entry.share) :
    s.conditionsOf (idTexts picked) = s'.conditionsOf (idTexts picked') := by
  have sorted {t : Store} {kept : List Entry} (holds : t.Holds kept) (ids : List String) :
      ((t.conditions.filter fun row => ids.contains row.workflowId).mergeSort
        conditionLE).Pairwise fun a b => conditionLE a.anonymous b.anonymous := by
    rw [holds.sorted_conditions, List.pairwise_map]
    simp only [conditionLE_anonymous, PlacedCondition.conditionLE_row]
    exact placedFor_pairwise ids kept
  have rows : ((s.conditions.filter fun row => (idTexts picked).contains row.workflowId).mergeSort
      conditionLE).map ConditionRow.anonymous =
        ((s'.conditions.filter fun row => (idTexts picked').contains row.workflowId).mergeSort
          conditionLE).map ConditionRow.anonymous := by
    apply map_eq_of_perm conditionLE ConditionRow.anonymous (sorted holds _) (sorted holds' _)
    · have read := (List.mergeSort_perm (s.conditions.filter fun row =>
        (idTexts picked).contains row.workflowId) conditionLE).map ConditionRow.anonymous
      have read' := (List.mergeSort_perm (s'.conditions.filter fun row =>
        (idTexts picked').contains row.workflowId) conditionLE).map ConditionRow.anonymous
      have parts := holds.conditions_perm within distinct
      have parts' := holds'.conditions_perm within' distinct'
      rw [same] at parts
      exact (read.trans parts).trans (read'.trans parts').symm
    · intro a memberA b memberB below above
      rw [conditionLE_anonymous] at below above
      have storedA := List.mem_of_mem_filter (List.mem_mergeSort.mp memberA)
      have storedB := List.mem_of_mem_filter (List.mem_mergeSort.mp memberB)
      rw [holds.eq_of_conditionLE storedA storedB below above]
  have asMany : (idTexts picked).length = (idTexts picked').length := by
    rw [length_idTexts, length_idTexts, ← List.length_map Entry.share, same, List.length_map]
  simp only [conditionsOf, asMany, intact.require, intact'.require, ok_bind]
  rw [← readAll_map readCondition_anonymous, rows, readAll_map readCondition_anonymous]

/-! ## Workflows -/

theorem workflow_anonymous (row : JoinedRow) :
    (JoinedRow.anonymous row).1.workflow (JoinedRow.anonymous row).2 = row.1.workflow row.2 :=
  rfl

/-- Equal shares answer alike for the workflows without their conditions. -/
theorem readBare_congr (same : picked.map Entry.share = picked'.map Entry.share) :
    readAll (fun row : JoinedRow => row.1.workflow row.2) (picked.map Entry.joined) =
      readAll (fun row : JoinedRow => row.1.workflow row.2) (picked'.map Entry.joined) := by
  have rows : (picked.map Entry.joined).map JoinedRow.anonymous =
      (picked'.map Entry.joined).map JoinedRow.anonymous := by
    have firsts := congrArg (List.map Prod.fst) same
    rw [List.map_map, List.map_map] at firsts ⊢
    exact firsts
  rw [← readAll_map workflow_anonymous, rows, readAll_map workflow_anonymous]

/-- Equal shares answer alike for the workflows. -/
theorem readWorkflows_congr (holds : s.Holds entries) (holds' : s'.Holds entries')
    (intact : s.Intact) (intact' : s'.Intact) (within : ∀ e ∈ picked, e ∈ entries)
    (within' : ∀ e ∈ picked', e ∈ entries') (distinct : (picked.map fun e => e.workflow.id).Nodup)
    (distinct' : (picked'.map fun e => e.workflow.id).Nodup)
    (same : picked.map Entry.share = picked'.map Entry.share) :
    s.readWorkflows (picked.map Entry.joined) = s'.readWorkflows (picked'.map Entry.joined) := by
  unfold readWorkflows
  rw [readBare_congr same]
  cases read : readAll (fun row : JoinedRow => row.1.workflow row.2) (picked'.map Entry.joined) with
  | error error => rfl
  | ok workflows =>
      obtain ⟨-, rfl⟩ := readBare_eq_ok_iff.mp read
      rw [ok_bind, ok_bind, idTexts_bare,
        ← conditionsOf_congr holds holds' intact intact' within within' distinct distinct' same,
        idTexts_eq_map_share picked, same, ← idTexts_eq_map_share]

/-- Equal shares answer alike for whatever is picked from them, oldest first. -/
theorem readOldest_congr (holds : s.Holds entries) (holds' : s'.Holds entries')
    (intact : s.Intact) (intact' : s'.Intact) {picked : Entry → Bool}
    (same : ((entries.filter picked).map Entry.share).Perm
      ((entries'.filter picked).map Entry.share)) :
    s.readWorkflows ((oldestEntries (entries.filter picked)).map Entry.joined) =
      s'.readWorkflows ((oldestEntries (entries'.filter picked)).map Entry.joined) := by
  have distinct : ((entries.filter picked).map fun e => e.workflow.id).Nodup :=
    holds.distinctIds.sublist (List.filter_sublist.map _)
  exact readWorkflows_congr holds holds' intact intact' (within_oldestEntries picked)
    (within_oldestEntries picked) (holds.distinct_oldestEntries picked)
    (holds'.distinct_oldestEntries picked) (map_share_oldestEntries distinct same)

/-! ## The workflows of a company -/

/-- The workflows of a company are read from the rows of their entries, oldest first. -/
theorem Holds.workflowsOf_eq (holds : s.Holds entries) (intact : s.Intact) (company : Uuid) :
    s.workflowsOf company = s.readWorkflows
      ((oldestEntries (entries.filter fun e => e.workflow.companyId.text == company.text)).map
        Entry.joined) := by
  simp only [workflowsOf, intact.require, ok_bind]
  rw [holds.sortJoined_filter (fun row => row.1.companyId == company.text)
    (fun e => e.workflow.companyId.text == company.text) fun _ _ => rfl]

/-- Stores with the same share for a company have the same workflows for it, or the same
reason why these cannot be read. -/
theorem workflowsOf_congr (holds : s.Holds entries) (holds' : s'.Holds entries')
    (intact : s.Intact) (intact' : s'.Intact) {company : Uuid}
    (same : (s.share company.text).Perm (s'.share company.text)) :
    s.workflowsOf company = s'.workflowsOf company := by
  rw [holds.share_eq, holds'.share_eq] at same
  rw [holds.workflowsOf_eq intact, holds'.workflowsOf_eq intact']
  exact readOldest_congr holds holds' intact intact' same

/-! ## Candidates -/

/-- The entries of a company for a trigger. -/
def candidateEntries (company : Uuid) (trigger : Trigger) (entries : List Entry) : List Entry :=
  entries.filter fun e => e.workflow.companyId = company ∧ e.workflow.trigger = trigger

/-- The candidates are read from the rows of their entries, oldest first. -/
theorem Holds.workflowsFor_eq (holds : s.Holds entries) (intact : s.Intact) (company : Uuid)
    (trigger : Trigger) :
    s.workflowsFor company trigger = s.readWorkflows
      ((oldestEntries (candidateEntries company trigger entries)).map Entry.joined) := by
  simp only [workflowsFor, intact.require, ok_bind]
  rw [holds.sortJoined_filter _
    (fun e => decide (e.workflow.companyId = company ∧ e.workflow.trigger = trigger))
    fun e _ => by simp]
  rfl

theorem mainCondition_share (e : Entry) :
    e.share.1.1.mainCondition = Json.word e.workflow.trigger :=
  rfl

theorem Holds.filter_share (holds : s.Holds entries) (company : Uuid) (trigger : Trigger) :
    (s.share company.text).filter (fun part => part.1.1.mainCondition == Json.word trigger) =
      (candidateEntries company trigger entries).map Entry.share := by
  rw [holds.share_eq, List.filter_map, List.filter_filter, candidateEntries]
  apply congrArg (List.map Entry.share)
  apply List.filter_congr
  intro e _
  simp [mainCondition_share, And.comm]

/-- Stores with the same share for a company have the same candidates for it, or the same
reason why these cannot be read. -/
theorem workflowsFor_congr (holds : s.Holds entries) (holds' : s'.Holds entries')
    (intact : s.Intact) (intact' : s'.Intact) {company : Uuid}
    (same : (s.share company.text).Perm (s'.share company.text)) (trigger : Trigger) :
    s.workflowsFor company trigger = s'.workflowsFor company trigger := by
  have shares : ((candidateEntries company trigger entries).map Entry.share).Perm
      ((candidateEntries company trigger entries').map Entry.share) := by
    rw [← holds.filter_share, ← holds'.filter_share]
    exact same.filter _
  rw [holds.workflowsFor_eq intact, holds'.workflowsFor_eq intact']
  exact readOldest_congr holds holds' intact intact' shares

end Store

end Caretaker
