import Caretaker.Proofs.Store.Rows
import Caretaker.Store.Workflows
import Mathlib.Data.List.Nodup

/-!
# Workflows spread over three tables

An entry is a workflow together with the identifiers that were drawn for its rows.
A store holds a list of entries when its three tables of workflows have exactly the
rows of these entries, in their order, and nothing else.

Adding a workflow appends an entry, switching rewrites entries in place, and removing
a workflow takes its entry out.  These three equations say everything that the writes
do to the tables, and they are all that later files use of them.
-/

namespace Caretaker

open Calendar

/-- A workflow, and the identifiers of its action row and of its condition rows. -/
structure Entry where
  rowId : Nat → Uuid
  workflow : Workflow

namespace Entry

/-- The row in `workflows`. -/
def row (e : Entry) : WorkflowRow :=
  .ofWorkflow (e.rowId 0) e.workflow

@[simp]
theorem id_row (e : Entry) : e.row.id = e.workflow.id.text :=
  rfl

@[simp]
theorem companyId_row (e : Entry) : e.row.companyId = e.workflow.companyId.text :=
  rfl

@[simp]
theorem mainCondition_row (e : Entry) : e.row.mainCondition = Json.word e.workflow.trigger :=
  rfl

@[simp]
theorem actionId_row (e : Entry) : e.row.actionId = (e.rowId 0).text :=
  rfl

@[simp]
theorem createdAt_row (e : Entry) : e.row.createdAt = e.workflow.createdAt.storedText :=
  rfl

/-- The row in `workflow_actions`. -/
def actionRow (e : Entry) : ActionRow :=
  .ofAction (e.rowId 0) e.workflow.action

@[simp]
theorem id_actionRow (e : Entry) : e.actionRow.id = (e.rowId 0).text :=
  rfl

/-- The rows in `workflow_conditions`. -/
def conditionRows (e : Entry) : List ConditionRow :=
  Store.conditionRows e.rowId e.workflow

/-- The entry after its workflow was switched, if it is among the given ones. -/
def switch (ids : List Uuid) (enabled : Bool) (now : Instant) (e : Entry) : Entry :=
  if e.workflow.id ∈ ids then
    { e with workflow := { e.workflow with enabled, updatedAt := now } }
  else e

@[simp]
theorem rowId_switch (ids : List Uuid) (enabled : Bool) (now : Instant) (e : Entry) :
    (e.switch ids enabled now).rowId = e.rowId := by
  unfold switch
  split <;> rfl

@[simp]
theorem id_switch (ids : List Uuid) (enabled : Bool) (now : Instant) (e : Entry) :
    (e.switch ids enabled now).workflow.id = e.workflow.id := by
  unfold switch
  split <;> rfl

@[simp]
theorem companyId_switch (ids : List Uuid) (enabled : Bool) (now : Instant) (e : Entry) :
    (e.switch ids enabled now).workflow.companyId = e.workflow.companyId := by
  unfold switch
  split <;> rfl

theorem switch_of_not_mem {ids : List Uuid} {e : Entry} (notListed : e.workflow.id ∉ ids)
    (enabled : Bool) (now : Instant) : e.switch ids enabled now = e := by
  rw [switch, if_neg notListed]

theorem actionRow_switch (ids : List Uuid) (enabled : Bool) (now : Instant) (e : Entry) :
    (e.switch ids enabled now).actionRow = e.actionRow := by
  unfold switch
  split <;> rfl

theorem conditionRows_switch (ids : List Uuid) (enabled : Bool) (now : Instant) (e : Entry) :
    (e.switch ids enabled now).conditionRows = e.conditionRows := by
  unfold switch
  split <;> rfl

/-- All condition rows of an entry name its workflow. -/
theorem workflowId_of_mem_conditionRows {e : Entry} {row : ConditionRow}
    (member : row ∈ e.conditionRows) : row.workflowId = e.workflow.id.text := by
  obtain ⟨position, inside, rfl⟩ := List.mem_mapIdx.mp member
  rfl

end Entry

namespace Store

/-- Every table is there. -/
def Intact (s : Store) : Prop :=
  s.dropped = []

theorem Intact.require {s : Store} (intact : s.Intact) (table : Table) :
    s.require table = .ok () := by
  have there : table ∉ s.dropped := by
    rw [intact]
    exact List.not_mem_nil
  simp [Store.require, there]

/-- The tables of workflows have exactly the rows of the entries. -/
structure Holds (s : Store) (entries : List Entry) : Prop where
  workflows : s.workflows = entries.map Entry.row
  actions : s.actions = entries.map Entry.actionRow
  conditions : s.conditions = entries.flatMap Entry.conditionRows
  distinctIds : (entries.map fun e => e.workflow.id).Nodup
  distinctRows : (entries.map fun e => e.rowId 0).Nodup

theorem holds_empty : empty.Holds [] :=
  ⟨rfl, rfl, rfl, List.nodup_nil, List.nodup_nil⟩

/-- The store that has these entries and nothing else. -/
def ofEntries (entries : List Entry) : Store :=
  { empty with
    workflows := entries.map Entry.row
    actions := entries.map Entry.actionRow
    conditions := entries.flatMap Entry.conditionRows }

theorem holds_ofEntries {entries : List Entry}
    (distinctIds : (entries.map fun e => e.workflow.id).Nodup)
    (distinctRows : (entries.map fun e => e.rowId 0).Nodup) : (ofEntries entries).Holds entries :=
  ⟨rfl, rfl, rfl, distinctIds, distinctRows⟩

/-- Only the tables of workflows decide what entries a store holds. -/
theorem Holds.congr {s s' : Store} {entries : List Entry} (holds : s.Holds entries)
    (workflows : s'.workflows = s.workflows) (actions : s'.actions = s.actions)
    (conditions : s'.conditions = s.conditions) : s'.Holds entries where
  workflows := workflows.trans holds.workflows
  actions := actions.trans holds.actions
  conditions := conditions.trans holds.conditions
  distinctIds := holds.distinctIds
  distinctRows := holds.distinctRows

variable {s s' : Store} {entries : List Entry}

/-! ## Adding -/

/-- A workflow is added exactly when its action, its conditions and itself have new
identifiers. -/
theorem addWorkflow_eq_ok_iff (intact : s.Intact) {fresh : Nat → Uuid} {w : Workflow} :
    s.addWorkflow fresh w = .ok s' ↔
      (∀ row ∈ s.actions, row.id ≠ (fresh 0).text) ∧
        repeatsId (s.conditions.map ConditionRow.id)
          ((conditionRows fresh w).map ConditionRow.id) = false ∧
        (∀ row ∈ s.workflows, row.id ≠ w.id.text) ∧
        { s with
          actions := s.actions ++ [.ofAction (fresh 0) w.action]
          conditions := s.conditions ++ conditionRows fresh w
          workflows := s.workflows ++ [.ofWorkflow (fresh 0) w] } = s' := by
  simp only [addWorkflow, intact.require, ok_bind, refuse_eq_ok_iff, ite_self, pure_eq_ok_iff,
    List.any_eq_false, beq_iff_eq]

/-- What adding a workflow does to the tables, whichever of them are there. -/
theorem eq_of_addWorkflow {fresh : Nat → Uuid} {w : Workflow}
    (added : s.addWorkflow fresh w = .ok s') :
    s' = { s with
      actions := s.actions ++ [.ofAction (fresh 0) w.action]
      conditions := s.conditions ++ conditionRows fresh w
      workflows := s.workflows ++ [.ofWorkflow (fresh 0) w] } := by
  simp only [addWorkflow, bind_eq_ok_iff, refuse_eq_ok_iff] at added
  obtain ⟨_, -, -, rest⟩ := added
  -- The table of conditions is only asked for when there are any.
  split at rest
  · simp only [bind_eq_ok_iff, refuse_eq_ok_iff, pure_eq_ok_iff] at rest
    obtain ⟨_, -, -, _, -, -, rfl⟩ := rest
    rfl
  · simp only [bind_eq_ok_iff, refuse_eq_ok_iff, pure_eq_ok_iff] at rest
    obtain ⟨-, _, -, -, rfl⟩ := rest
    rfl

theorem nodup_map_concat_iff {α κ : Type} {key : α → κ} {values : List α} {value : α} :
    ((values ++ [value]).map key).Nodup ↔
      (values.map key).Nodup ∧ ∀ other ∈ values, key other ≠ key value := by
  simp [List.map_append, List.nodup_append]

/-- Keys stay distinct when a value with another key is appended. -/
theorem nodup_map_concat {α κ : Type} {key : α → κ} {values : List α} {value : α}
    (distinct : (values.map key).Nodup) (apart : ∀ other ∈ values, key other ≠ key value) :
    ((values ++ [value]).map key).Nodup :=
  nodup_map_concat_iff.mpr ⟨distinct, apart⟩

theorem Holds.addWorkflow (holds : s.Holds entries) (intact : s.Intact) {fresh : Nat → Uuid}
    {w : Workflow} (added : s.addWorkflow fresh w = .ok s') :
    s'.Holds (entries ++ [⟨fresh, w⟩]) := by
  obtain ⟨newAction, -, newWorkflow, rfl⟩ := (addWorkflow_eq_ok_iff intact).mp added
  rw [holds.actions, List.forall_mem_map] at newAction
  rw [holds.workflows, List.forall_mem_map] at newWorkflow
  constructor
  · simp [holds.workflows, Entry.row]
  · simp [holds.actions, Entry.actionRow]
  · simp [holds.conditions, Entry.conditionRows]
  · apply nodup_map_concat holds.distinctIds
    exact fun e member same => newWorkflow e member (congrArg Uuid.text same)
  · apply nodup_map_concat holds.distinctRows
    exact fun e member same => newAction e member (congrArg Uuid.text same)

/-! ## Switching -/

/-- Switching rewrites rows of `workflows` and nothing else. -/
theorem setEnabled_eq (intact : s.Intact) (ids : List Uuid) (enabled : Bool) (now : Instant) :
    s.setEnabled ids enabled now = .ok { s with
      workflows := s.workflows.map fun row =>
        if ids.any fun id => row.id == id.text then
          { row with enabled := .ofBool enabled, updatedAt := now.storedText }
        else row } := by
  cases ids with
  | nil => simp [setEnabled, pure, Except.pure]
  | cons id rest => simp [setEnabled, intact.require, pure, Except.pure]

theorem Holds.setEnabled (holds : s.Holds entries) (intact : s.Intact) {ids : List Uuid}
    {enabled : Bool} {now : Instant} (switched : s.setEnabled ids enabled now = .ok s') :
    s'.Holds (entries.map (Entry.switch ids enabled now)) := by
  rw [setEnabled_eq intact, Except.ok.injEq] at switched
  subst switched
  constructor
  · rw [holds.workflows, List.map_map, List.map_map]
    apply List.map_congr_left
    intro e _
    have named : (ids.any fun id => e.row.id == id.text) = true ↔ e.workflow.id ∈ ids := by
      simp
    by_cases listed : e.workflow.id ∈ ids
    · simp only [Function.comp_apply, named.mpr listed, if_true, Entry.switch, listed]
      rfl
    · simp only [Function.comp_apply, mt named.mp listed, if_false, Entry.switch, listed]
      rfl
  · simp [holds.actions, Function.comp_def, Entry.actionRow_switch]
  · simp [holds.conditions, List.flatMap_map, Entry.conditionRows_switch]
  · simpa [Function.comp_def] using holds.distinctIds
  · simpa [Function.comp_def] using holds.distinctRows

/-- What switching makes of the table is written from the entries. -/
theorem Holds.setEnabled_rows (holds : s.Holds entries) (intact : s.Intact) (ids : List Uuid)
    (enabled : Bool) (now : Instant) :
    s.setEnabled ids enabled now = .ok { s with
      workflows := (entries.map (Entry.switch ids enabled now)).map Entry.row } := by
  have switched := setEnabled_eq intact ids enabled now
  have rows := (holds.setEnabled intact switched).workflows
  rw [switched, ← rows]

/-! ## Removing -/

/-- The entries without the one with an identifier. -/
def without (id : Uuid) (entries : List Entry) : List Entry :=
  entries.filter fun e => e.workflow.id ≠ id

theorem map_without {α : Type} {write : Entry → α} {picked : α → Bool} {id : Uuid}
    (agrees : ∀ e ∈ entries, picked (write e) = decide (e.workflow.id ≠ id)) :
    (entries.map write).filter picked = (without id entries).map write := by
  rw [List.filter_map, without]
  exact congrArg (List.map write) (List.filter_congr agrees)

/-- Parts that a test only tells apart by their wholes stay or go together. -/
theorem filter_flatMap_whole {α β : Type} {parts : α → List β} {test : β → Bool}
    {picked : α → Bool} {wholes : List α}
    (agrees : ∀ whole ∈ wholes, ∀ part ∈ parts whole, test part = picked whole) :
    (wholes.flatMap parts).filter test = (wholes.filter picked).flatMap parts := by
  induction wholes with
  | nil => rfl
  | cons whole rest ih =>
      rw [List.forall_mem_cons] at agrees
      rw [List.flatMap_cons, List.filter_append, ih agrees.2, List.filter_cons]
      by_cases wanted : picked whole = true
      · rw [if_pos wanted, List.flatMap_cons]
        congr 1
        apply List.filter_eq_self.mpr
        intro part member
        rw [agrees.1 part member, wanted]
      · rw [if_neg wanted]
        have none_ : (parts whole).filter test = [] := by
          apply List.filter_eq_nil_iff.mpr
          intro part member
          rwa [agrees.1 part member]
        rw [none_, List.nil_append]

/-- Under distinct keys, at most one value has a key. -/
theorem length_filter_key_le_one {α κ : Type} [BEq κ] [LawfulBEq κ] {key : α → κ} {values : List α}
    (distinct : (values.map key).Nodup) (k : κ) :
    (values.filter fun value => key value == k).length ≤ 1 := by
  have once := List.nodup_iff_count_le_one.mp distinct k
  rw [List.count, List.countP_map, List.countP_eq_length_filter] at once
  exact once

/-- Of values with distinct keys, one key picks one value. -/
theorem filter_key_eq_singleton {α κ : Type} [DecidableEq κ] {key : α → κ} {values : List α}
    (distinct : (values.map key).Nodup) {value : α} (member : value ∈ values) :
    values.filter (fun other => key other = key value) = [value] := by
  induction values with
  | nil => contradiction
  | cons first rest ih =>
      rw [List.map_cons, List.nodup_cons] at distinct
      rw [List.filter_cons]
      rcases List.mem_cons.mp member with rfl | later
      · rw [if_pos (decide_eq_true rfl)]
        congr 1
        apply List.filter_eq_nil_iff.mpr
        intro other memberOther same
        exact distinct.1 (of_decide_eq_true same ▸ List.mem_map_of_mem memberOther)
      · have differ : ¬decide (key first = key value) = true := by
          intro same
          exact distinct.1 (of_decide_eq_true same ▸ List.mem_map_of_mem later)
        rw [if_neg differ, ih distinct.2 later]

theorem filter_flatMap_conditionRows (picked : String → Bool) (entries : List Entry) :
    (entries.flatMap Entry.conditionRows).filter (fun row => picked row.workflowId) =
      (entries.filter fun e => picked e.workflow.id.text).flatMap Entry.conditionRows := by
  apply filter_flatMap_whole
  intro e _ row member
  rw [Entry.workflowId_of_mem_conditionRows member]

theorem flatMap_without (id : Uuid) (entries : List Entry) :
    (entries.flatMap Entry.conditionRows).filter (fun row => row.workflowId != id.text) =
      (without id entries).flatMap Entry.conditionRows := by
  rw [filter_flatMap_conditionRows fun text => text != id.text, without]
  simp only [Uuid.text_bne_text]

theorem without_of_absent {id : Uuid} (absent : ∀ e ∈ entries, e.workflow.id ≠ id) :
    without id entries = entries :=
  List.filter_eq_self.mpr fun e member => decide_eq_true (absent e member)

/-- Two entries with one identifier are the same entry. -/
theorem Holds.eq_of_id (holds : s.Holds entries) {a b : Entry} (memberA : a ∈ entries)
    (memberB : b ∈ entries) (same : a.workflow.id = b.workflow.id) : a = b :=
  List.inj_on_of_nodup_map holds.distinctIds memberA memberB same

/-- Two entries whose action rows have one identifier are the same entry. -/
theorem Holds.eq_of_rowId (holds : s.Holds entries) {a b : Entry} (memberA : a ∈ entries)
    (memberB : b ∈ entries) (same : a.rowId 0 = b.rowId 0) : a = b :=
  List.inj_on_of_nodup_map holds.distinctRows memberA memberB same

/-- Looking for the row of a workflow is looking for its entry. -/
theorem Holds.find?_workflows (holds : s.Holds entries) (id : Uuid) :
    (s.workflows.find? fun row => row.id == id.text) =
      (entries.find? fun e => e.workflow.id = id).map Entry.row := by
  have named : (fun row : WorkflowRow => row.id == id.text) ∘ Entry.row =
      fun e => decide (e.workflow.id = id) := by
    funext e
    simp
  rw [holds.workflows, List.find?_map, named]

theorem Holds.workflows_without (holds : s.Holds entries) (id : Uuid) :
    s.workflows.filter (fun row => row.id != id.text) = (without id entries).map Entry.row := by
  rw [holds.workflows]
  apply map_without
  intro e _
  simp

theorem Holds.conditions_without (holds : s.Holds entries) (id : Uuid) :
    s.conditions.filter (fun row => row.workflowId != id.text) =
      (without id entries).flatMap Entry.conditionRows := by
  rw [holds.conditions]
  exact flatMap_without id entries

/-- Removing a workflow takes the rows of its entry out of each table, and no others. -/
theorem Holds.removeWorkflow_eq (holds : s.Holds entries) (intact : s.Intact) (id : Uuid) :
    s.removeWorkflow id = .ok (entries.any fun e => e.workflow.id = id, { s with
      workflows := (without id entries).map Entry.row
      actions := (without id entries).map Entry.actionRow
      conditions := (without id entries).flatMap Entry.conditionRows }) := by
  simp only [removeWorkflow, intact.require, ok_bind, holds.find?_workflows]
  cases located : entries.find? fun e => e.workflow.id = id with
  | none =>
      have absent : ∀ e ∈ entries, e.workflow.id ≠ id := by
        simpa using List.find?_eq_none.mp located
      have none_ : (entries.any fun e => e.workflow.id = id) = false := by simpa using absent
      rw [none_, without_of_absent absent, ← holds.workflows, ← holds.actions, ← holds.conditions]
      rfl
  | some e =>
      have member : e ∈ entries := List.mem_of_find?_eq_some located
      have named : e.workflow.id = id := by simpa using List.find?_some located
      have some_ : (entries.any fun e => e.workflow.id = id) = true :=
        List.any_eq_true.mpr ⟨e, member, decide_eq_true named⟩
      have actionRows : s.actions.filter (fun other => other.id != e.row.actionId) =
          (without id entries).map Entry.actionRow := by
        rw [holds.actions]
        apply map_without
        intro other memberOther
        have sameEntry : other.rowId 0 = e.rowId 0 ↔ other.workflow.id = id :=
          ⟨fun same => holds.eq_of_rowId memberOther member same ▸ named,
            fun same => by rw [holds.eq_of_id memberOther member (same.trans named.symm)]⟩
        simp [sameEntry]
      rw [some_, ← holds.workflows_without, ← actionRows, ← holds.conditions_without]
      rfl

theorem Holds.removeWorkflow (holds : s.Holds entries) (intact : s.Intact) {id : Uuid}
    {found : Bool} (removed : s.removeWorkflow id = .ok (found, s')) :
    s'.Holds (without id entries) := by
  rw [holds.removeWorkflow_eq intact, Except.ok.injEq, Prod.mk.injEq] at removed
  obtain ⟨-, rfl⟩ := removed
  have kept : (without id entries).Sublist entries := List.filter_sublist
  exact ⟨rfl, rfl, rfl, holds.distinctIds.sublist (kept.map _),
    holds.distinctRows.sublist (kept.map _)⟩

end Store

end Caretaker
