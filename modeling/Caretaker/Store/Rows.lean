import Caretaker.Company
import Caretaker.Store.Cell
import Caretaker.Webhook.Config
import Caretaker.Workflow.Basic

/-!
# Rows

One row type for each table, with the content of its columns, and for each row how
it is written from a value and read back.  A workflow is spread over three tables:
its own row, the row of its action, and one row for each condition with the
condition's position.

When several columns of a row cannot be read, the first in the order of the reader
is reported.
-/

namespace Caretaker

open Json Calendar

/-- A row of `companies`. -/
structure CompanyRow where
  id : String
  name : String
  createdAt : String
  deriving DecidableEq

namespace CompanyRow

/-- The row of a company. -/
def ofCompany (company : Company) : CompanyRow :=
  ⟨company.id.text, company.name, company.createdAt.storedText⟩

/-- The company in a row. -/
def company (row : CompanyRow) : Except StoreError Company := do
  let id ← Stored.uuid row.id
  let createdAt ← Stored.instant row.createdAt
  return { id, name := row.name, createdAt }

end CompanyRow

/-- A row of `users`. -/
structure UserRow where
  id : String
  companyId : String
  email : String
  role : String
  deriving DecidableEq

namespace UserRow

/-- The row of a user. -/
def ofUser (user : User) : UserRow :=
  ⟨user.id.text, user.companyId.text, user.email, word user.role⟩

/-- The user in a row. -/
def user (row : UserRow) : Except StoreError User := do
  let id ← Stored.uuid row.id
  let companyId ← Stored.uuid row.companyId
  let role ← Stored.loose row.role
  return { id, companyId, email := row.email, role }

end UserRow

/-- A row of `webhook_configs`. -/
structure ConfigRow where
  id : String
  companyId : String
  apiKey : String
  enabled : Cell
  createdAt : String
  updatedAt : String

namespace ConfigRow

/-- The row of a configuration. -/
def ofConfig (config : WebhookConfig) : ConfigRow :=
  ⟨config.id.text, config.companyId.text, config.apiKey, .ofBool config.enabled,
    config.createdAt.storedText, config.updatedAt.storedText⟩

/-- The configuration in a row. -/
def config (row : ConfigRow) : Except StoreError WebhookConfig := do
  let enabled ← row.enabled.bool "\"enabled\""
  let id ← Stored.uuid row.id
  let companyId ← Stored.uuid row.companyId
  let createdAt ← Stored.instant row.createdAt
  let updatedAt ← Stored.instant row.updatedAt
  return { id, companyId, apiKey := row.apiKey, enabled, createdAt, updatedAt }

end ConfigRow

/-- A row of `workflow_actions`. -/
structure ActionRow where
  id : String
  workOrderAction : Option String
  requestAction : Option String
  purchaseOrderAction : Option String
  partAction : Option String
  taskAction : Option String
  teamId : Option String
  userId : Option String
  assetId : Option String
  locationId : Option String
  categoryId : Option String
  vendorId : Option String
  priority : Option String
  assetStatus : Option String
  value : Option String
  numberValue : Cell

namespace ActionRow

/-- The row of an action. -/
def ofAction (id : Uuid) (a : Action) : ActionRow :=
  { id := id.text
    workOrderAction := Stored.wordText a.workOrderAction
    requestAction := Stored.wordText a.requestAction
    purchaseOrderAction := Stored.wordText a.purchaseOrderAction
    partAction := Stored.wordText a.partAction
    taskAction := Stored.wordText a.taskAction
    teamId := Stored.uuidText a.team
    userId := Stored.uuidText a.user
    assetId := Stored.uuidText a.asset
    locationId := Stored.uuidText a.location
    categoryId := Stored.uuidText a.category
    vendorId := Stored.uuidText a.vendor
    priority := Stored.wordText a.priority
    assetStatus := Stored.wordText a.assetStatus
    value := a.value
    numberValue := .ofFloat? a.numberValue }

/-- The action in a row, given its number. -/
def action (row : ActionRow) (numberValue : Option Float) : Except StoreError Action := do
  let workOrderAction ← Stored.opt Stored.exact row.workOrderAction
  let requestAction ← Stored.opt Stored.exact row.requestAction
  let purchaseOrderAction ← Stored.opt Stored.exact row.purchaseOrderAction
  let partAction ← Stored.opt Stored.exact row.partAction
  let taskAction ← Stored.opt Stored.exact row.taskAction
  let team ← Stored.opt Stored.uuid row.teamId
  let user ← Stored.opt Stored.uuid row.userId
  let asset ← Stored.opt Stored.uuid row.assetId
  let location ← Stored.opt Stored.uuid row.locationId
  let category ← Stored.opt Stored.uuid row.categoryId
  let vendor ← Stored.opt Stored.uuid row.vendorId
  let priority ← Stored.opt Stored.exact row.priority
  let assetStatus ← Stored.opt Stored.exact row.assetStatus
  return {
    workOrderAction, requestAction, purchaseOrderAction, partAction, taskAction, team, user,
    asset, location, category, vendor, priority, assetStatus, value := row.value, numberValue }

end ActionRow

/-- A row of `workflows`. -/
structure WorkflowRow where
  id : String
  companyId : String
  title : String
  mainCondition : String
  actionId : String
  enabled : Cell
  createdAt : String
  updatedAt : String

namespace WorkflowRow

/-- The row of a workflow whose action has the given identifier. -/
def ofWorkflow (actionId : Uuid) (w : Workflow) : WorkflowRow :=
  { id := w.id.text
    companyId := w.companyId.text
    title := w.title
    mainCondition := word w.trigger
    actionId := actionId.text
    enabled := .ofBool w.enabled
    createdAt := w.createdAt.storedText
    updatedAt := w.updatedAt.storedText }

/-- The workflow in a row and the row of its action, without conditions. -/
def workflow (row : WorkflowRow) (actionRow : ActionRow) : Except StoreError Workflow := do
  let enabled ← row.enabled.bool "\"enabled\""
  let numberValue ← actionRow.numberValue.float? "\"number_value\""
  let trigger ← Stored.loose row.mainCondition
  let action ← actionRow.action numberValue
  let id ← Stored.uuid row.id
  let companyId ← Stored.uuid row.companyId
  let createdAt ← Stored.instant row.createdAt
  let updatedAt ← Stored.instant row.updatedAt
  return {
    id, companyId, title := row.title, trigger, conditions := [], action, enabled,
    createdAt, updatedAt }

end WorkflowRow

/-- A row of `workflow_conditions`. -/
structure ConditionRow where
  id : String
  workflowId : String
  position : Cell
  alertName : Option String
  severity : Option String
  label : Option String
  value : Option String
  numberValue : Cell
  assetId : Option String
  locationId : Option String
  userId : Option String
  teamId : Option String
  vendorId : Option String
  partId : Option String
  categoryId : Option String
  priority : Option String
  workOrderStatus : Option String
  purchaseOrderStatus : Option String
  createdTimeStart : Option String
  createdTimeEnd : Option String
  startDate : Option String
  endDate : Option String

namespace ConditionRow

/-- The row of the condition at a position of a workflow. -/
def ofCondition (id workflowId : Uuid) (position : Nat) (c : Condition) : ConditionRow :=
  { id := id.text
    workflowId := workflowId.text
    position := .int position
    alertName := c.alertName
    severity := c.severity
    label := c.label
    value := c.value
    numberValue := .ofFloat? c.numberValue
    assetId := Stored.uuidText c.asset
    locationId := Stored.uuidText c.location
    userId := Stored.uuidText c.user
    teamId := Stored.uuidText c.team
    vendorId := Stored.uuidText c.vendor
    partId := Stored.uuidText c.part
    categoryId := Stored.uuidText c.category
    priority := Stored.wordText c.priority
    workOrderStatus := Stored.wordText c.workOrderStatus
    purchaseOrderStatus := Stored.wordText c.purchaseOrderStatus
    createdTimeStart := Stored.instantText c.createdTimeStart
    createdTimeEnd := Stored.instantText c.createdTimeEnd
    startDate := Stored.instantText c.startDate
    endDate := Stored.instantText c.endDate }

/-- The condition in a row. -/
def condition (row : ConditionRow) : Except StoreError Condition := do
  let numberValue ← row.numberValue.float? "\"number_value\""
  let _ ← Stored.uuid row.workflowId
  let asset ← Stored.opt Stored.uuid row.assetId
  let location ← Stored.opt Stored.uuid row.locationId
  let user ← Stored.opt Stored.uuid row.userId
  let team ← Stored.opt Stored.uuid row.teamId
  let vendor ← Stored.opt Stored.uuid row.vendorId
  let part ← Stored.opt Stored.uuid row.partId
  let category ← Stored.opt Stored.uuid row.categoryId
  let priority ← Stored.opt Stored.exact row.priority
  let workOrderStatus ← Stored.opt Stored.exact row.workOrderStatus
  let purchaseOrderStatus ← Stored.opt Stored.exact row.purchaseOrderStatus
  let createdTimeStart ← Stored.opt Stored.instant row.createdTimeStart
  let createdTimeEnd ← Stored.opt Stored.instant row.createdTimeEnd
  let startDate ← Stored.opt Stored.instant row.startDate
  let endDate ← Stored.opt Stored.instant row.endDate
  return {
    alertName := row.alertName, severity := row.severity, label := row.label,
    value := row.value, numberValue, asset, location, user, team, vendor, part, category, priority,
    workOrderStatus, purchaseOrderStatus, createdTimeStart, createdTimeEnd, startDate, endDate }

end ConditionRow

/-- A row of `assets`. -/
structure AssetRow where
  id : String
  companyId : String
  name : String
  status : String
  createdAt : String
  deriving DecidableEq

namespace AssetRow

/-- The row of an asset. -/
def ofAsset (asset : Asset) : AssetRow :=
  ⟨asset.id.text, asset.companyId.text, asset.name, word asset.status,
    asset.createdAt.storedText⟩

/-- The asset in a row. -/
def asset (row : AssetRow) : Except StoreError Asset := do
  let id ← Stored.uuid row.id
  let companyId ← Stored.uuid row.companyId
  let status ← Stored.exact row.status
  let createdAt ← Stored.instant row.createdAt
  return { id, companyId, name := row.name, status, createdAt }

/-- The row after a second save: who owns the asset, and since when it is known,
stays as it was. -/
def merge (old new : AssetRow) : AssetRow :=
  { new with id := old.id, companyId := old.companyId, createdAt := old.createdAt }

end AssetRow

/-- The columns that `work_orders` and `requests` share. -/
structure TicketRow where
  id : String
  companyId : String
  title : String
  description : Option String
  priority : String
  status : String
  assetId : Option String
  locationId : Option String
  userId : Option String
  teamId : Option String
  categoryId : Option String
  dueDate : Option String
  createdAt : String
  deriving DecidableEq

namespace TicketRow

/-- The row of a ticket. -/
def ofTicket (t : Ticket) : TicketRow :=
  { id := t.id.text
    companyId := t.companyId.text
    title := t.title
    description := t.description
    priority := word t.priority
    status := word t.status
    assetId := Stored.uuidText t.assetId
    locationId := Stored.uuidText t.locationId
    userId := Stored.uuidText t.userId
    teamId := Stored.uuidText t.teamId
    categoryId := Stored.uuidText t.categoryId
    dueDate := Stored.instantText t.dueDate
    createdAt := t.createdAt.storedText }

/-- The ticket in a row. -/
def ticket (row : TicketRow) : Except StoreError Ticket := do
  let priority ← Stored.loose row.priority
  let status ← Stored.loose row.status
  let id ← Stored.uuid row.id
  let companyId ← Stored.uuid row.companyId
  let assetId ← Stored.opt Stored.uuid row.assetId
  let locationId ← Stored.opt Stored.uuid row.locationId
  let userId ← Stored.opt Stored.uuid row.userId
  let teamId ← Stored.opt Stored.uuid row.teamId
  let categoryId ← Stored.opt Stored.uuid row.categoryId
  let dueDate ← Stored.opt Stored.instant row.dueDate
  let createdAt ← Stored.instant row.createdAt
  return {
    id, companyId, title := row.title, description := row.description, priority, status,
    assetId, locationId, userId, teamId, categoryId, dueDate, createdAt }

/-- The row after a second save: owner and creation time stay as they were. -/
def merge (old new : TicketRow) : TicketRow :=
  { new with id := old.id, companyId := old.companyId, createdAt := old.createdAt }

end TicketRow

/-- A row of `work_orders`. -/
structure WorkOrderRow extends TicketRow where
  customId : Option String
  deriving DecidableEq

namespace WorkOrderRow

/-- The row of a work order. -/
def ofOrder (order : WorkOrder) : WorkOrderRow :=
  { TicketRow.ofTicket order.toTicket with customId := order.number }

/-- The work order in a row. -/
def order (row : WorkOrderRow) : Except StoreError WorkOrder := do
  let ticket ← row.toTicketRow.ticket
  return { ticket with number := row.customId }

/-- The row after a second save. -/
def merge (old new : WorkOrderRow) : WorkOrderRow :=
  { old.toTicketRow.merge new.toTicketRow with customId := new.customId }

end WorkOrderRow

/-- A row of `work_order_counters`. -/
structure CounterRow where
  companyId : String
  lastValue : Cell

/-- A row of `purchase_orders`. -/
structure PurchaseOrderRow where
  id : String
  companyId : String
  name : String
  status : String
  vendorId : Option String
  categoryId : Option String
  createdAt : String
  deriving DecidableEq

namespace PurchaseOrderRow

/-- The row of a purchase order. -/
def ofOrder (order : PurchaseOrder) : PurchaseOrderRow :=
  { id := order.id.text
    companyId := order.companyId.text
    name := order.name
    status := word order.status
    vendorId := Stored.uuidText order.vendorId
    categoryId := Stored.uuidText order.categoryId
    createdAt := order.createdAt.storedText }

/-- The row after a second save. -/
def merge (old new : PurchaseOrderRow) : PurchaseOrderRow :=
  { new with id := old.id, companyId := old.companyId, createdAt := old.createdAt }

end PurchaseOrderRow

end Caretaker
