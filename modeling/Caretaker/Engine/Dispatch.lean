import Caretaker.Desk.Access
import Caretaker.Workflow.Selection

/-!
# Dispatch

What a workflow does to its subject.  The conditions are checked once more; then
the selector for the kind of subject decides.  An assignment overwrites its field
with the value in the action, and clears it where the action has none.  A selector
without an effect leaves everything alone.

Jobs on tickets and purchase orders also answer with the subject as it now is, even
when it could not be saved.
-/

namespace Caretaker

open Job

/-- What a dispatch did. -/
inductive Effect where
  | applied
  | nothing
  | conditionsNotMet
  deriving DecidableEq

/-- A field of a ticket that an action assigns. -/
inductive Assignment where
  | team
  | user
  | asset
  | category
  | location
  | priority
  deriving DecidableEq

/-- The field that an action on a ticket assigns, if it does. -/
def TicketAction.assignment? : TicketAction → Option Assignment
  | .assignTeam => some .team
  | .assignUser => some .user
  | .assignAsset => some .asset
  | .assignCategory => some .category
  | .assignLocation => some .location
  | .assignPriority => some .priority
  | .addChecklist => none
  | .sendReminderEmail => none

/-- The ticket with one field overwritten from the action. -/
def Ticket.assign (t : Ticket) (field : Assignment) (action : Action) : Ticket :=
  match field with
  | .team => { t with teamId := action.team }
  | .user => { t with userId := action.user }
  | .asset => { t with assetId := action.asset }
  | .category => { t with categoryId := action.category }
  | .location => { t with locationId := action.location }
  | .priority => { t with priority := action.priority.getD .none }

/-- The purchase order after the selected change; `none` when there is none. -/
def PurchaseOrder.apply (order : PurchaseOrder) (selected : PurchaseOrderAction)
    (action : Action) : Option PurchaseOrder :=
  match selected with
  | .approve => some { order with status := .approved }
  | .reject => some { order with status := .rejected }
  | .assignVendor => some { order with vendorId := action.vendor }
  | .sendReminderEmail => none

namespace Dispatch

/-- Save a subject that was changed, and answer with it whatever comes of that. -/
def saved {σ : Type} (subject : σ) (save : Job StoreError Unit) :
    Job StoreError (Except StoreError Effect × σ) := do
  match ← save.attempt with
  | .ok () => return (.ok .applied, subject)
  | .error e => return (.error e, subject)

/-- Run a workflow on a work order. -/
def workOrder (w : Workflow) (order : WorkOrder) :
    Job StoreError (Except StoreError Effect × WorkOrder) :=
  if !w.matchesSubject (.workOrder order) then return (.ok .conditionsNotMet, order)
  else match w.action.workOrderAction.bind TicketAction.assignment? with
    | none => return (.ok .nothing, order)
    | some field =>
        let changed := { order with toTicket := order.toTicket.assign field w.action }
        saved changed (Desk.saveWorkOrder changed)

/-- Run a workflow on a request. -/
def request (w : Workflow) (request : Request) :
    Job StoreError (Except StoreError Effect × Request) :=
  if !w.matchesSubject (.request request) then return (.ok .conditionsNotMet, request)
  else match w.action.requestAction.bind TicketAction.assignment? with
    | none => return (.ok .nothing, request)
    | some field =>
        let changed : Request := ⟨request.toTicket.assign field w.action⟩
        saved changed (Desk.saveRequest changed)

/-- Run a workflow on a purchase order. -/
def purchaseOrder (w : Workflow) (order : PurchaseOrder) :
    Job StoreError (Except StoreError Effect × PurchaseOrder) :=
  if !w.matchesSubject (.purchaseOrder order) then return (.ok .conditionsNotMet, order)
  else match w.action.purchaseOrderAction.bind fun selected => order.apply selected w.action with
    | none => return (.ok .nothing, order)
    | some changed => saved changed (Desk.savePurchaseOrder changed)

/-- Run a workflow on a part.  No action on parts has an effect yet. -/
def part (w : Workflow) (part : Part) : Job StoreError Effect :=
  if !w.matchesSubject (.part part) then return .conditionsNotMet else return .nothing

/-- Run a workflow on a task. -/
def task (w : Workflow) (task : Task) : Job StoreError Effect :=
  if !w.matchesSubject (.task task) then return .conditionsNotMet
  else match w.action.taskAction, task.assetId, w.action.assetStatus with
    | some .setAssetStatus, some assetId, some status => do
        match ← Desk.findAsset assetId with
        | none => return .nothing
        | some asset =>
            Desk.saveAsset { asset with status }
            return .applied
    | _, _, _ => return .nothing

/-- The ticket that an alert opens for a workflow. -/
def ticketFor (w : Workflow) (alert : Alert) (fresh : Ticket) : Ticket :=
  { fresh with
    title := "Auto-created: " ++ alert.alertName
    description := some ("Created from Grafana alert: " ++ alert.messageText)
    priority := alert.priority
    status := .opened
    assetId := w.action.asset
    locationId := w.action.location
    teamId := w.action.team
    userId := w.action.user
    categoryId := w.action.category }

/-- A new ticket for a workflow and an alert. -/
def openTicket (w : Workflow) (alert : Alert) : Job StoreError Ticket := do
  let id ← freshId
  let createdAt ← now
  return ticketFor w alert (.fresh id w.companyId createdAt "")

/-- Run a workflow on an alert: it may open a work order or a request. -/
def alert (w : Workflow) (alert : Alert) : Job StoreError Effect :=
  if !w.matchesSubject (.alert alert) then return .conditionsNotMet
  else match w.action.taskAction with
    | some .createWorkOrder => do
        let ticket ← openTicket w alert
        let number ← Desk.nextOrderNumber w.companyId
        Desk.saveWorkOrder { ticket with number := some number }
        return .applied
    | some .createRequest => do
        let ticket ← openTicket w alert
        Desk.saveRequest ⟨ticket⟩
        return .applied
    | some .setAssetStatus | none => return .nothing

end Dispatch

end Caretaker
