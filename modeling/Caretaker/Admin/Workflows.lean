import Caretaker.Desk.Access
import Caretaker.Text.WhiteSpace
import Caretaker.Workflow.Selection

/-!
# Administration of workflows

Workflows are created, listed, switched and removed for one company at a time; a
workflow of another company counts as absent.  A company on a restricted plan keeps
one workflow switched on, the one created first.
-/

namespace Caretaker

open Job Text

/-- Why a workflow was not created, found or changed. -/
inductive WorkflowError where
  | notFound
  | invalid (reason : String)
  | storage (reason : String)
  deriving DecidableEq

/-- How the refusal is reported. -/
def WorkflowError.message : WorkflowError → String
  | .notFound => "workflow not found"
  | .invalid reason => "invalid workflow: " ++ reason
  | .storage reason => "storage error: " ++ reason

/-- A storage error in the terms of workflows. -/
def WorkflowError.ofStore (error : StoreError) : WorkflowError :=
  .storage error.message

/-- What a change of plan did: the workflow it kept, and how many it wrote. -/
structure PlanReport where
  kept : Option Uuid
  updated : Nat
  deriving DecidableEq

/-- The report on a change of plan, as it is shown to clients. -/
def PlanReport.json (report : PlanReport) : Json :=
  .obj [("kept", Json.encode report.kept), ("updated", Json.ofNat report.updated)]

namespace Workflows

/-- The first condition that no ticket can meet, with its position. -/
def impossibleFrom (position : Nat) : List Condition → Option (Nat × Condition.RangeError)
  | [] => none
  | c :: rest => match c.checkRanges with
      | .error e => some (position, e)
      | .ok () => impossibleFrom (position + 1) rest

/-- Create a workflow, switched on. -/
def create (company : Uuid) (draft : WorkflowDraft) : Job WorkflowError Workflow := do
  let title := trim draft.title
  if title.isEmpty then fail (.invalid "title cannot be empty")
  else
    let conditions := draft.conditions.map Condition.normalized
    match impossibleFrom 0 conditions with
    | some (position, e) =>
        fail (.invalid ("condition " ++ ofNat position ++ ": " ++ e.message))
    | none =>
        let createdAt ← now
        let id ← freshId
        let workflow : Workflow :=
          { id, companyId := company, title, trigger := draft.trigger, conditions,
            action := draft.action.getD .empty, enabled := true, createdAt,
            updatedAt := createdAt }
        (Desk.createWorkflow workflow).mapError .ofStore

/-- The workflows of a company, oldest first. -/
def list (company : Uuid) : Job WorkflowError (List Workflow) :=
  (Desk.listWorkflows company).mapError .ofStore

/-- A workflow of a company. -/
def get (company id : Uuid) : Job WorkflowError Workflow := do
  let found ← (Desk.findWorkflow id).mapError .ofStore
  orFail .notFound (found.filter fun w => w.companyId = company)

/-- Remove a workflow of a company. -/
def delete (company id : Uuid) : Job WorkflowError Unit := do
  let _ ← get company id
  let found ← (Desk.deleteWorkflow id).mapError .ofStore
  if found then pure () else fail .notFound

/-- Switch a workflow of a company on or off.  The answer is the workflow as it was
read, with its new flag. -/
def setEnabled (company id : Uuid) (enabled : Bool) : Job WorkflowError Workflow := do
  let workflow ← get company id
  (Desk.setWorkflowsEnabled [workflow.id] enabled).mapError .ofStore
  return { workflow with enabled }

/-- Leave only the workflow that was created first switched on. -/
def restrictPlan (company : Uuid) : Job StoreError PlanReport := do
  let workflows ← Desk.listWorkflows company
  match Workflow.survivor workflows with
  | none => return ⟨none, 0⟩
  | some survivor =>
      let others := (workflows.filter fun w => w.id ≠ survivor.id && w.enabled).map Workflow.id
      if !others.isEmpty then Desk.setWorkflowsEnabled others false
      if !survivor.enabled then Desk.setWorkflowsEnabled [survivor.id] true
      return ⟨some survivor.id, others.length + if survivor.enabled then 0 else 1⟩

/-- Switch all workflows of a company on. -/
def liftPlan (company : Uuid) : Job StoreError PlanReport := do
  let workflows ← Desk.listWorkflows company
  let disabled := (workflows.filter fun w => !w.enabled).map Workflow.id
  if !disabled.isEmpty then Desk.setWorkflowsEnabled disabled true
  return ⟨none, disabled.length⟩

/-- The restricted plan, for administrators. -/
def disableExtra (company : Uuid) : Job WorkflowError PlanReport :=
  (restrictPlan company).mapError .ofStore

/-- The unrestricted plan, for administrators. -/
def enableAll (company : Uuid) : Job WorkflowError PlanReport :=
  (liftPlan company).mapError .ofStore

end Workflows

end Caretaker
