import Caretaker.Proofs.Store.Reading
import Caretaker.Store.Workflows

/-!
# Workflows that were loaded

What is true of the workflows that a query has found, whatever the store: each was read
from a row that the query picked, and only its conditions were added.
-/

namespace Caretaker

namespace Store

/-- Every value was read from some row. -/
theorem exists_row_of_readAll {ρ α : Type} {read : ρ → Except StoreError α} {rows : List ρ}
    {values : List α} (answer : readAll read rows = .ok values) :
    ∀ value ∈ values, ∃ row ∈ rows, read row = .ok value := by
  induction rows generalizing values with
  | nil =>
      cases answer
      exact List.forall_mem_nil _
  | cons row rest ih =>
      simp only [readAll, bind_eq_ok_iff, pure_eq_ok_iff] at answer
      obtain ⟨first, readFirst, others, readOthers, rfl⟩ := answer
      intro value member
      rcases List.mem_cons.mp member with rfl | later
      · exact ⟨row, List.mem_cons_self, readFirst⟩
      · obtain ⟨row', memberRest, readRow⟩ := ih readOthers value later
        exact ⟨row', List.mem_cons_of_mem _ memberRest, readRow⟩

/-- Conditions are all that is attached to a workflow. -/
theorem exists_of_mem_attach {conditions : List (String × Condition)} {workflows : List Workflow}
    {found : Workflow} (member : found ∈ attach conditions workflows) :
    ∃ w ∈ workflows, found = { w with conditions := found.conditions } := by
  induction workflows generalizing conditions with
  | nil => cases member
  | cons w rest ih =>
      rw [attach] at member
      rcases List.mem_cons.mp member with rfl | later
      · exact ⟨w, List.mem_cons_self, rfl⟩
      · obtain ⟨w', memberRest, same⟩ := ih later
        exact ⟨w', List.mem_cons_of_mem _ memberRest, same⟩

/-- Every workflow that was read comes from a joined row, but for its conditions. -/
theorem exists_row_of_readWorkflows {s : Store} {rows : List JoinedRow} {found : List Workflow}
    (answer : s.readWorkflows rows = .ok found) :
    ∀ w ∈ found, ∃ row ∈ rows, ∃ bare, row.1.workflow row.2 = .ok bare ∧
      w = { bare with conditions := w.conditions } := by
  simp only [readWorkflows, bind_eq_ok_iff] at answer
  obtain ⟨bare, read, answer⟩ := answer
  split at answer
  · cases answer
    exact List.forall_mem_nil _
  · simp only [bind_eq_ok_iff, pure_eq_ok_iff] at answer
    obtain ⟨conditions, -, rfl⟩ := answer
    intro w member
    obtain ⟨own, memberBare, same⟩ := exists_of_mem_attach member
    obtain ⟨row, memberRow, readRow⟩ := exists_row_of_readAll read own memberBare
    exact ⟨row, memberRow, own, readRow, same⟩

/-- The company of a workflow is the one in its row. -/
theorem uuid_companyId_of_workflow {row : WorkflowRow} {action : ActionRow} {w : Workflow}
    (read : row.workflow action = .ok w) : Stored.uuid row.companyId = .ok w.companyId := by
  simp only [WorkflowRow.workflow, bind_eq_ok_iff, pure_eq_ok_iff] at read
  obtain ⟨_, -, _, -, _, -, _, -, _, -, companyId, own, _, -, _, -, rfl⟩ := read
  exact own

/-- The workflows that are found for a company belong to it. -/
theorem companyId_of_workflowsFor {s : Store} {company : Uuid} {trigger : Trigger}
    {candidates : List Workflow} (answer : s.workflowsFor company trigger = .ok candidates) :
    ∀ w ∈ candidates, w.companyId = company := by
  simp only [workflowsFor, bind_eq_ok_iff] at answer
  obtain ⟨_, -, answer⟩ := answer
  intro w member
  obtain ⟨row, memberRow, bare, read, same⟩ := exists_row_of_readWorkflows answer w member
  obtain ⟨-, picked⟩ := List.mem_filter.mp (mem_oldestFirst.mp memberRow)
  obtain ⟨named, -⟩ := (Bool.and_eq_true _ _).mp picked
  have own := uuid_companyId_of_workflow read
  rw [eq_of_beq named, Stored.uuid_text] at own
  rw [same]
  exact (Except.ok.inj own).symm

end Store

end Caretaker
