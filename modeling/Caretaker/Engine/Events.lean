import Caretaker.Engine.Dispatch

/-!
# Events

When a maintenance object changes, at most one workflow of its company acts: the
first, by creation, that is switched on, belongs to the kind of object, and has
conditions that hold.
-/

namespace Caretaker

open Job

/-- The workflow that acted, and what it did. -/
structure Fired where
  workflowId : Uuid
  effect : Effect
  deriving DecidableEq

namespace Engine

/-- The workflow of a company that acts on a subject. -/
def select (company : Uuid) (trigger : Trigger) (subject : Subject) :
    Job StoreError (Option Workflow) := do
  let candidates ← Desk.matchWorkflows company trigger
  return Workflow.firstMatch candidates subject

/-- What an event came to, and the subject afterwards. -/
abbrev Report (σ : Type) := Except StoreError (Option Fired) × σ

/-- Select a workflow for a subject and dispatch it. -/
def onSubject {σ : Type} (company : Uuid) (subject : σ) (view : Subject)
    (dispatch : Workflow → Job StoreError (Except StoreError Effect × σ)) :
    Job StoreError (Report σ) := do
  match ← (select company view.trigger view).attempt with
  | .error e => return (.error e, subject)
  | .ok none => return (.ok none, subject)
  | .ok (some w) =>
      let (result, after) ← dispatch w
      return (result.map fun effect => some ⟨w.id, effect⟩, after)

/-- A dispatch that leaves its subject alone. -/
def unchanged {σ : Type} (subject : σ) (dispatch : Job StoreError Effect) :
    Job StoreError (Except StoreError Effect × σ) := do
  let result ← dispatch.attempt
  return (result, subject)

/-- A work order changed. -/
def onWorkOrder (order : WorkOrder) : Job StoreError (Report WorkOrder) :=
  onSubject order.companyId order (.workOrder order) fun w => Dispatch.workOrder w order

/-- A request changed. -/
def onRequest (request : Request) : Job StoreError (Report Request) :=
  onSubject request.companyId request (.request request) fun w => Dispatch.request w request

/-- A purchase order changed. -/
def onPurchaseOrder (order : PurchaseOrder) : Job StoreError (Report PurchaseOrder) :=
  onSubject order.companyId order (.purchaseOrder order) fun w => Dispatch.purchaseOrder w order

/-- A part changed. -/
def onPart (part : Part) : Job StoreError (Report Part) :=
  onSubject part.companyId part (.part part) fun w => unchanged part (Dispatch.part w part)

/-- A task of a work order of the company changed. -/
def onTask (company : Uuid) (task : Task) : Job StoreError (Report Task) :=
  onSubject company task (.task task) fun w => unchanged task (Dispatch.task w task)

end Engine

end Caretaker
