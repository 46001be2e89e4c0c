import Caretaker.Maintenance
import Caretaker.Text.WhiteSpace

/-!
# Workflows

A workflow belongs to a company and a trigger.  It has a list of conditions, all of
which have to hold, and an action: one selector for each kind of subject, and the
values that the selected change uses.
-/

namespace Caretaker

open Json Calendar Text

/-- What sets a workflow off. -/
inductive Trigger where
  | workOrder
  | request
  | purchaseOrder
  | part
  | task
  | webhook
  deriving DecidableEq

instance : Vocabulary Trigger where
  noun := "main condition"
  all := [.workOrder, .request, .purchaseOrder, .part, .task, .webhook]
  word
    | .workOrder => "WORK_ORDER"
    | .request => "REQUEST"
    | .purchaseOrder => "PURCHASE_ORDER"
    | .part => "PART"
    | .task => "TASK"
    | .webhook => "WEBHOOK"

/-- What a workflow does to a work order or a request. -/
inductive TicketAction where
  | assignTeam
  | assignUser
  | assignAsset
  | assignCategory
  | assignLocation
  | assignPriority
  | addChecklist
  | sendReminderEmail
  deriving DecidableEq

instance : Worded TicketAction where
  all := [.assignTeam, .assignUser, .assignAsset, .assignCategory, .assignLocation,
    .assignPriority, .addChecklist, .sendReminderEmail]
  word
    | .assignTeam => "ASSIGN_TEAM"
    | .assignUser => "ASSIGN_USER"
    | .assignAsset => "ASSIGN_ASSET"
    | .assignCategory => "ASSIGN_CATEGORY"
    | .assignLocation => "ASSIGN_LOCATION"
    | .assignPriority => "ASSIGN_PRIORITY"
    | .addChecklist => "ADD_CHECKLIST"
    | .sendReminderEmail => "SEND_REMINDER_EMAIL"

/-- What a workflow does to a purchase order. -/
inductive PurchaseOrderAction where
  | approve
  | reject
  | assignVendor
  | sendReminderEmail
  deriving DecidableEq

instance : Worded PurchaseOrderAction where
  all := [.approve, .reject, .assignVendor, .sendReminderEmail]
  word
    | .approve => "APPROVE"
    | .reject => "REJECT"
    | .assignVendor => "ASSIGN_VENDOR"
    | .sendReminderEmail => "SEND_REMINDER_EMAIL"

/-- What a workflow does for a part. -/
inductive PartAction where
  | createPurchaseOrder
  deriving DecidableEq

instance : Worded PartAction where
  all := [.createPurchaseOrder]
  word
    | .createPurchaseOrder => "CREATE_PURCHASE_ORDER"

/-- What a workflow does for a task, and for an alert. -/
inductive TaskAction where
  | createWorkOrder
  | createRequest
  | setAssetStatus
  deriving DecidableEq

instance : Worded TaskAction where
  all := [.createWorkOrder, .createRequest, .setAssetStatus]
  word
    | .createWorkOrder => "CREATE_WORK_ORDER"
    | .createRequest => "CREATE_REQUEST"
    | .setAssetStatus => "SET_ASSET_STATUS"

/-- One condition of a workflow.  An absent matcher is satisfied by everything. -/
structure Condition where
  alertName : Option String
  severity : Option String
  label : Option String
  value : Option String
  numberValue : Option Float
  asset : Option Uuid
  location : Option Uuid
  user : Option Uuid
  team : Option Uuid
  vendor : Option Uuid
  part : Option Uuid
  category : Option Uuid
  priority : Option Priority
  workOrderStatus : Option Status
  purchaseOrderStatus : Option Approval
  createdTimeStart : Option Instant
  createdTimeEnd : Option Instant
  startDate : Option Instant
  endDate : Option Instant

/-- The condition without matchers. -/
def Condition.empty : Condition :=
  ⟨none, none, none, none, none, none, none, none, none, none, none, none, none, none, none, none,
    none, none, none⟩

/-- A blank text counts as absent. -/
def unlessBlank (text : Option String) : Option String :=
  text.filter fun s => !isBlank s

/-- The condition with its blank texts removed. -/
def Condition.normalized (c : Condition) : Condition :=
  { c with
    alertName := unlessBlank c.alertName
    severity := unlessBlank c.severity
    label := unlessBlank c.label
    value := unlessBlank c.value }

/-- What a workflow does when its conditions hold. -/
structure Action where
  workOrderAction : Option TicketAction
  requestAction : Option TicketAction
  purchaseOrderAction : Option PurchaseOrderAction
  partAction : Option PartAction
  taskAction : Option TaskAction
  team : Option Uuid
  user : Option Uuid
  asset : Option Uuid
  location : Option Uuid
  category : Option Uuid
  vendor : Option Uuid
  priority : Option Priority
  assetStatus : Option AssetStatus
  value : Option String
  numberValue : Option Float

/-- The action that does nothing. -/
def Action.empty : Action :=
  ⟨none, none, none, none, none, none, none, none, none, none, none, none, none, none, none⟩

/-- A stored automation rule. -/
structure Workflow where
  id : Uuid
  companyId : Uuid
  title : String
  trigger : Trigger
  conditions : List Condition
  action : Action
  enabled : Bool
  createdAt : Instant
  updatedAt : Instant

/-- What somebody asks for who wants a new workflow. -/
structure WorkflowDraft where
  title : String
  trigger : Trigger
  conditions : List Condition
  action : Option Action

/-! ## Wire forms -/

instance : Wire Condition where
  encode c := record
    [putSome "alertName" c.alertName, putSome "severity" c.severity, putSome "label" c.label,
      putSome "value" c.value, putSome "numberValue" c.numberValue, putSome "asset" c.asset,
      putSome "location" c.location, putSome "user" c.user, putSome "team" c.team,
      putSome "vendor" c.vendor, putSome "part" c.part, putSome "category" c.category,
      putSome "priority" c.priority, putSome "workOrderStatus" c.workOrderStatus,
      putSome "purchaseOrderStatus" c.purchaseOrderStatus,
      putSome "createdTimeStart" c.createdTimeStart, putSome "createdTimeEnd" c.createdTimeEnd,
      putSome "startDate" c.startDate, putSome "endDate" c.endDate]
  read := Record.read <|
    Condition.mk <$> omittable "alertName" <*> omittable "severity" <*> omittable "label" <*>
    omittable "value" <*> omittable "numberValue" <*> omittable "asset" <*>
    omittable "location" <*> omittable "user" <*> omittable "team" <*> omittable "vendor" <*>
    omittable "part" <*> omittable "category" <*> omittable "priority" <*>
    omittable "workOrderStatus" <*> omittable "purchaseOrderStatus" <*>
    omittable "createdTimeStart" <*> omittable "createdTimeEnd" <*> omittable "startDate" <*>
    omittable "endDate"

instance : Wire Action where
  encode a := record
    [putSome "workOrderAction" a.workOrderAction, putSome "requestAction" a.requestAction,
      putSome "purchaseOrderAction" a.purchaseOrderAction, putSome "partAction" a.partAction,
      putSome "taskAction" a.taskAction, putSome "team" a.team, putSome "user" a.user,
      putSome "asset" a.asset, putSome "location" a.location, putSome "category" a.category,
      putSome "vendor" a.vendor, putSome "priority" a.priority,
      putSome "assetStatus" a.assetStatus, putSome "value" a.value,
      putSome "numberValue" a.numberValue]
  read := Record.read <|
    Action.mk <$> omittable "workOrderAction" <*> omittable "requestAction" <*>
    omittable "purchaseOrderAction" <*> omittable "partAction" <*> omittable "taskAction" <*>
    omittable "team" <*> omittable "user" <*> omittable "asset" <*> omittable "location" <*>
    omittable "category" <*> omittable "vendor" <*> omittable "priority" <*>
    omittable "assetStatus" <*> omittable "value" <*> omittable "numberValue"

instance : Wire Workflow where
  encode w := record
    [put "id" w.id, put "companyId" w.companyId, put "title" w.title,
      put "mainCondition" w.trigger, put "conditions" w.conditions, put "action" w.action,
      put "enabled" w.enabled, put "createdAt" w.createdAt, put "updatedAt" w.updatedAt]
  read := Record.read <|
    Workflow.mk <$> required "id" <*> required "companyId" <*> required "title" <*>
    required "mainCondition" <*> required "conditions" <*> required "action" <*>
    required "enabled" <*> required "createdAt" <*> required "updatedAt"

instance : Wire WorkflowDraft where
  encode draft := record
    [put "title" draft.title, put "mainCondition" draft.trigger,
      put "conditions" draft.conditions, put "action" draft.action]
  read := Record.read <|
    WorkflowDraft.mk <$> required "title" <*> required "mainCondition" <*>
    defaulted "conditions" Wire.read [] <*> omittable "action"

end Caretaker
