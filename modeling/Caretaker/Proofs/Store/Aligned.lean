import Caretaker.Proofs.Store.Assembly
import Caretaker.Proofs.WorkflowMap
import Mathlib.Data.Set.Basic

/-!
# Flags brought into line

A list of identifiers says which workflows of a company are to be switched on; its others
are to be off.  A workflow that has the other flag is misset.  Bringing a store into line
writes the rows of the misset workflows and no others, and of these rows only the flag and
the time of change.

Two batches do this: one for the workflows that are on and should not be, and one for
those that are off and should be on.
-/

namespace Caretaker

open Calendar

variable {on : List Uuid} {stamp : Bool → Instant} {company : Uuid}

/-! ## Workflows -/

namespace Workflow

/-- The workflow has the other flag than it is to have. -/
def misset (on : List Uuid) (w : Workflow) : Bool :=
  w.enabled != decide (w.id ∈ on)

/-- The workflow with the flag it is to have.  What is switched off is dated with
`stamp false`, and what is switched on with `stamp true`. -/
def aligned (on : List Uuid) (stamp : Bool → Instant) (w : Workflow) : Workflow :=
  if w.misset on then w.switched (decide (w.id ∈ on)) (stamp (decide (w.id ∈ on))) else w

variable {w : Workflow}

theorem aligned_of_right (right : w.misset on = false) : w.aligned on stamp = w := by
  rw [aligned, right]
  rfl

@[simp]
theorem id_aligned : (w.aligned on stamp).id = w.id := by
  unfold aligned
  split <;> rfl

@[simp]
theorem companyId_aligned : (w.aligned on stamp).companyId = w.companyId := by
  unfold aligned
  split <;> rfl

@[simp]
theorem createdAt_aligned : (w.aligned on stamp).createdAt = w.createdAt := by
  unfold aligned
  split <;> rfl

theorem conditions_aligned : (w.aligned on stamp).conditions = w.conditions := by
  unfold aligned
  split <;> rfl

theorem action_aligned : (w.aligned on stamp).action = w.action := by
  unfold aligned
  split <;> rfl

@[simp]
theorem enabled_aligned : (w.aligned on stamp).enabled = decide (w.id ∈ on) := by
  unfold aligned
  split
  · rfl
  · rename_i right
    simpa [misset] using right

/-- Nothing is misset after it was brought into line. -/
theorem misset_aligned : (w.aligned on stamp).misset on = false := by
  simp [misset]

/-- What is stored of a workflow has its flag, and the same identifier. -/
theorem stored_aligned : (w.aligned on stamp).stored = w.stored.aligned on stamp := by
  have sameFlag : w.stored.misset on = w.misset on := rfl
  unfold aligned
  rw [sameFlag]
  split <;> rfl

/-- Only the time of change is new among the instants. -/
theorem allLegible_aligned (legible : AllLegible w.instants) (dated : ∀ flag, (stamp flag).Legible) :
    AllLegible (w.aligned on stamp).instants := by
  unfold aligned
  split
  · simp only [instants, ownInstants, allLegible_append, allLegible_cons] at legible ⊢
    exact ⟨⟨legible.1.1, dated _, allLegible_nil⟩, legible.2⟩
  · exact legible

end Workflow

/-! ## Entries -/

namespace Entry

/-- The entry with its workflow brought into line, if it is one of the company. -/
def aligned (company : Uuid) (on : List Uuid) (stamp : Bool → Instant) (e : Entry) : Entry :=
  if e.workflow.companyId = company then { e with workflow := e.workflow.aligned on stamp } else e

variable {e : Entry}

theorem workflow_aligned (own : e.workflow.companyId = company) :
    (e.aligned company on stamp).workflow = e.workflow.aligned on stamp := by
  rw [aligned, if_pos own]

@[simp]
theorem id_aligned : (e.aligned company on stamp).workflow.id = e.workflow.id := by
  unfold aligned
  split <;> simp

@[simp]
theorem companyId_aligned :
    (e.aligned company on stamp).workflow.companyId = e.workflow.companyId := by
  unfold aligned
  split <;> simp

@[simp]
theorem createdAt_aligned :
    (e.aligned company on stamp).workflow.createdAt = e.workflow.createdAt := by
  unfold aligned
  split <;> simp

@[simp]
theorem rowId_aligned : (e.aligned company on stamp).rowId = e.rowId := by
  unfold aligned
  split <;> rfl

theorem actionRow_aligned : (e.aligned company on stamp).actionRow = e.actionRow := by
  unfold aligned actionRow
  split <;> simp [Workflow.action_aligned]

theorem conditionRows_aligned : (e.aligned company on stamp).conditionRows = e.conditionRows := by
  unfold aligned conditionRows Store.conditionRows
  split <;> simp [Workflow.conditions_aligned]

/-- Two batches bring an entry into line: one that names it if it is to be switched off, and
one that names it if it is to be switched on. -/
theorem switch_switch {extra missing : List Uuid}
    (isExtra : e.workflow.id ∈ extra ↔
      e.workflow.companyId = company ∧ e.workflow.enabled = true ∧ e.workflow.id ∉ on)
    (isMissing : e.workflow.id ∈ missing ↔
      e.workflow.companyId = company ∧ e.workflow.enabled = false ∧ e.workflow.id ∈ on) :
    (e.switch extra false (stamp false)).switch missing true (stamp true) =
      e.aligned company on stamp := by
  unfold switch aligned Workflow.aligned Workflow.misset Workflow.switched
  by_cases own : e.workflow.companyId = company
  · by_cases wanted : e.workflow.id ∈ on <;> cases flag : e.workflow.enabled <;>
      simp [isExtra, isMissing, own, wanted, flag]
  · simp [isExtra, isMissing, own]

end Entry

/-! ## Rows -/

namespace WorkflowRow

/-- The flag in the row. -/
def isOn (row : WorkflowRow) : Bool :=
  match row.enabled with
  | .int n => n != 0
  | .null | .real _ | .text _ => false

/-- The row with the flag that its workflow is to have.  Rows of other companies, and rows
that have this flag, are left as they are. -/
def aligned (company : Uuid) (on : List Uuid) (stamp : Bool → Instant) (row : WorkflowRow) :
    WorkflowRow :=
  let wanted := on.any fun id => row.id == id.text
  if row.companyId = company.text ∧ row.isOn ≠ wanted then
    { row with enabled := .ofBool wanted, updatedAt := (stamp wanted).storedText }
  else row

end WorkflowRow

namespace Entry

variable {e : Entry}

@[simp]
theorem isOn_row : e.row.isOn = e.workflow.enabled := by
  show ((if e.workflow.enabled then 1 else 0 : Int) != 0) = e.workflow.enabled
  cases e.workflow.enabled <;> rfl

theorem row_aligned : (e.aligned company on stamp).row = e.row.aligned company on stamp := by
  have wanted : (on.any fun id => e.row.id == id.text) = decide (e.workflow.id ∈ on) := by
    simp [List.any_eq, eq_comm]
  unfold WorkflowRow.aligned
  simp only [wanted, companyId_row, isOn_row, Uuid.text_inj]
  by_cases own : e.workflow.companyId = company
  · by_cases right : e.workflow.enabled = decide (e.workflow.id ∈ on)
    · rw [if_neg (fun wrong => wrong.2 right)]
      rw [aligned, if_pos own, Workflow.aligned_of_right (by simp [Workflow.misset, right])]
    · rw [if_pos ⟨own, right⟩, aligned, if_pos own, Workflow.aligned,
        if_pos (by simpa [Workflow.misset] using right)]
      rfl
  · rw [if_neg (fun wrong => own wrong.1), aligned, if_neg own]

end Entry

/-! ## Stores -/

namespace Store

/-- The store with the flags of the company's workflows brought into line. -/
def aligned (s : Store) (company : Uuid) (on : List Uuid) (stamp : Bool → Instant) : Store :=
  { s with workflows := s.workflows.map (WorkflowRow.aligned company on stamp) }

/-- The workflows that are stored for the company. -/
def idsOf (s : Store) (company : Uuid) : Set Uuid :=
  { id | ∃ row ∈ s.workflows, row.id = id.text ∧ row.companyId = company.text }

/-- The workflows of the company that are switched on. -/
def enabledOf (s : Store) (company : Uuid) : Set Uuid :=
  { id | ∃ row ∈ s.workflows, row.id = id.text ∧ row.companyId = company.text ∧ row.isOn = true }

/-- How many workflows have another flag in the second store, where the table has the same
workflows in the same places. -/
def flagsChanged (s s' : Store) : Nat :=
  (s.workflows.zip s'.workflows).countP fun (row, row') => row.isOn != row'.isOn

variable {s : Store} {entries : List Entry} {found : List Workflow}

/-- The entries of a company. -/
def ownEntries (company : Uuid) (entries : List Entry) : List Entry :=
  entries.filter fun e => e.workflow.companyId = company

theorem Holds.aligned_eq (holds : s.Holds entries) :
    s.aligned company on stamp = { s with
      workflows := (entries.map (Entry.aligned company on stamp)).map Entry.row } := by
  have rows : Entry.row ∘ Entry.aligned company on stamp =
      WorkflowRow.aligned company on stamp ∘ Entry.row := by
    funext e
    rw [Function.comp_apply, Function.comp_apply, Entry.row_aligned]
  rw [Store.aligned, holds.workflows, List.map_map, List.map_map, rows]

theorem Holds.workflows_aligned (holds : s.Holds entries) :
    (s.aligned company on stamp).workflows =
      (entries.map (Entry.aligned company on stamp)).map Entry.row :=
  congrArg Store.workflows holds.aligned_eq

theorem Holds.aligned (holds : s.Holds entries) :
    (s.aligned company on stamp).Holds (entries.map (Entry.aligned company on stamp)) where
  workflows := holds.workflows_aligned
  actions := by
    rw [Store.aligned, holds.actions]
    simp [Function.comp_def, Entry.actionRow_aligned]
  conditions := by
    rw [Store.aligned, holds.conditions]
    simp [List.flatMap_map, Entry.conditionRows_aligned]
  distinctIds := by simpa [Function.comp_def] using holds.distinctIds
  distinctRows := by simpa [Function.comp_def] using holds.distinctRows

/-! ### What the store says afterwards -/

/-- Afterwards exactly the given workflows of the company are switched on. -/
theorem Holds.enabledOf_aligned (holds : s.Holds entries)
    (within : ∀ id ∈ on, ∃ e ∈ entries, e.workflow.id = id ∧ e.workflow.companyId = company) :
    (s.aligned company on stamp).enabledOf company = { id | id ∈ on } := by
  ext id
  simp only [enabledOf, holds.workflows_aligned, Set.mem_ofPred_eq, List.mem_map]
  constructor
  · rintro ⟨_, ⟨_, ⟨e, member, rfl⟩, rfl⟩, named, owned, isOn⟩
    have own : e.workflow.companyId = company := by simpa using owned
    rw [Entry.isOn_row, Entry.workflow_aligned own, Workflow.enabled_aligned] at isOn
    have isNamed : e.workflow.id = id := by simpa using named
    exact isNamed ▸ of_decide_eq_true isOn
  · intro listed
    obtain ⟨e, member, rfl, own⟩ := within id listed
    refine ⟨_, ⟨_, ⟨e, member, rfl⟩, rfl⟩, by simp, by simp [own], ?_⟩
    rw [Entry.isOn_row, Entry.workflow_aligned own, Workflow.enabled_aligned]
    exact decide_eq_true listed

/-- The flags that changed are those that were misset. -/
theorem Holds.flagsChanged_aligned (holds : s.Holds entries) :
    s.flagsChanged (s.aligned company on stamp) =
      (ownEntries company entries).countP fun e => e.workflow.misset on := by
  rw [flagsChanged, holds.workflows_aligned, holds.workflows, List.map_map, List.zip_map',
    List.countP_map, ownEntries, List.countP_filter]
  apply List.countP_congr
  intro e _
  by_cases own : e.workflow.companyId = company
  · simp [Entry.workflow_aligned own, own, Workflow.misset]
  · simp [Entry.aligned, own]

theorem oldestEntries_aligned (entries : List Entry) :
    oldestEntries (entries.map (Entry.aligned company on stamp)) =
      (oldestEntries entries).map (Entry.aligned company on stamp) := by
  rw [oldestEntries, oldestFirst_map]
  simp only [Entry.createdAt_aligned, Entry.id_aligned]
  rfl

/-- The company's workflows are listed as before, with their flags in line. -/
theorem Holds.workflowsOf_aligned (holds : s.Holds entries) (intact : s.Intact)
    (dated : ∀ flag, (stamp flag).Legible) (answer : s.workflowsOf company = .ok found) :
    (s.aligned company on stamp).workflowsOf company =
      .ok (found.map (Workflow.aligned on stamp)) := by
  obtain ⟨legible, few, rfl⟩ := (holds.workflowsOf_eq_ok_iff intact).mp answer
  have intact' : (s.aligned company on stamp).Intact := intact
  have own : (fun e : Entry => decide (e.workflow.companyId = company)) ∘
      Entry.aligned company on stamp = fun e => decide (e.workflow.companyId = company) := by
    funext e
    rw [Function.comp_apply, Entry.companyId_aligned]
  rw [holds.aligned.workflowsOf_eq_ok_iff intact']
  refine ⟨?_, ?_, ?_⟩
  · rw [List.forall_mem_map]
    intro e member owned
    rw [Entry.companyId_aligned] at owned
    rw [Entry.workflow_aligned owned]
    exact Workflow.allLegible_aligned (legible e member owned) dated
  · rw [List.filter_map, own, List.length_map]
    exact few
  · rw [List.filter_map, own, oldestEntries_aligned, List.map_map, List.map_map]
    apply List.map_congr_left
    intro e member
    have owned := of_decide_eq_true (List.mem_filter.mp (mem_oldestEntries.mp member)).2
    rw [Function.comp_apply, Function.comp_apply, Entry.workflow_aligned owned,
      Workflow.stored_aligned]

end Store

end Caretaker
