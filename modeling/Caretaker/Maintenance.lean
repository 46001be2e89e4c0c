import Caretaker.Calendar.Reading
import Caretaker.Uuid
import Caretaker.Vocabulary

/-!
# Maintenance objects

The objects that workflows look at and change.  Work orders and requests share
everything but the number of a work order, so both extend a ticket.
-/

namespace Caretaker

open Json Calendar

/-- How urgent a ticket is. -/
inductive Priority where
  | none
  | low
  | medium
  | high
  deriving DecidableEq

instance : Vocabulary Priority where
  noun := "priority"
  all := [.none, .low, .medium, .high]
  word
    | .none => "NONE"
    | .low => "LOW"
    | .medium => "MEDIUM"
    | .high => "HIGH"

/-- How far the work on a ticket has come. -/
inductive Status where
  | opened
  | inProgress
  | onHold
  | complete
  deriving DecidableEq

instance : Vocabulary Status where
  noun := "status"
  all := [.opened, .inProgress, .onHold, .complete]
  word
    | .opened => "OPEN"
    | .inProgress => "IN_PROGRESS"
    | .onHold => "ON_HOLD"
    | .complete => "COMPLETE"

/-- Whether a purchase order may go ahead. -/
inductive Approval where
  | pending
  | approved
  | rejected
  deriving DecidableEq

instance : Worded Approval where
  all := [.pending, .approved, .rejected]
  word
    | .pending => "PENDING"
    | .approved => "APPROVED"
    | .rejected => "REJECTED"

/-- The operational state of an asset. -/
inductive AssetStatus where
  | operational
  | down
  | standby
  | modernization
  | inspectionScheduled
  | commissioning
  | emergencyShutdown
  deriving DecidableEq

instance : Worded AssetStatus where
  all := [.operational, .down, .standby, .modernization, .inspectionScheduled, .commissioning,
    .emergencyShutdown]
  word
    | .operational => "OPERATIONAL"
    | .down => "DOWN"
    | .standby => "STANDBY"
    | .modernization => "MODERNIZATION"
    | .inspectionScheduled => "INSPECTION_SCHEDULED"
    | .commissioning => "COMMISSIONING"
    | .emergencyShutdown => "EMERGENCY_SHUTDOWN"

/-- What work orders and requests have in common. -/
structure Ticket where
  id : Uuid
  companyId : Uuid
  title : String
  description : Option String
  priority : Priority
  status : Status
  assetId : Option Uuid
  locationId : Option Uuid
  userId : Option Uuid
  teamId : Option Uuid
  categoryId : Option Uuid
  dueDate : Option Instant
  createdAt : Instant
  deriving DecidableEq

/-- A new open ticket without assignments. -/
def Ticket.fresh (id companyId : Uuid) (createdAt : Instant) (title : String) : Ticket :=
  { id, companyId, title, description := none, priority := .none, status := .opened,
    assetId := none, locationId := none, userId := none, teamId := none, categoryId := none,
    dueDate := none, createdAt }

/-- A unit of maintenance work.  `number` is its running number for people. -/
structure WorkOrder extends Ticket where
  number : Option String
  deriving DecidableEq

/-- Work that somebody asks for and nobody has approved yet. -/
structure Request extends Ticket
  deriving DecidableEq

/-- The request with everything a work order has besides its number. -/
def WorkOrder.request (order : WorkOrder) : Request :=
  ⟨order.toTicket⟩

/-- An order of goods. -/
structure PurchaseOrder where
  id : Uuid
  companyId : Uuid
  name : String
  status : Approval
  vendorId : Option Uuid
  categoryId : Option Uuid
  createdAt : Instant
  deriving DecidableEq

/-- A spare part in stock. -/
structure Part where
  id : Uuid
  companyId : Uuid
  name : String
  categoryId : Option Uuid
  vendorId : Option Uuid
  quantity : Float
  createdAt : Instant

/-- An item of a checklist.  `assetId` is the asset of the work order it belongs
to. -/
structure Task where
  id : Uuid
  workOrderId : Uuid
  assetId : Option Uuid
  label : String
  value : Option String
  numberValue : Option Float
  createdAt : Instant

/-- A machine or a building that is maintained. -/
structure Asset where
  id : Uuid
  companyId : Uuid
  name : String
  status : AssetStatus
  createdAt : Instant
  deriving DecidableEq

/-! ## Wire forms -/

instance : Wire WorkOrder where
  encode order := record
    [put "id" order.id, put "company_id" order.companyId, put "custom_id" order.number,
      put "title" order.title, put "description" order.description,
      put "priority" order.priority, put "status" order.status, put "asset_id" order.assetId,
      put "location_id" order.locationId, put "primary_user_id" order.userId,
      put "team_id" order.teamId, put "category_id" order.categoryId,
      put "due_date" order.dueDate, put "created_at" order.createdAt]
  read := Record.read <|
    (fun id companyId number title description priority status assetId locationId userId teamId
        categoryId dueDate createdAt =>
      { id, companyId, number, title, description, priority, status, assetId, locationId, userId,
        teamId, categoryId, dueDate, createdAt : WorkOrder }) <$>
    required "id" <*> required "company_id" <*> optional "custom_id" <*> required "title" <*>
    optional "description" <*> required "priority" <*> required "status" <*>
    optional "asset_id" <*> optional "location_id" <*> optional "primary_user_id" <*>
    optional "team_id" <*> optional "category_id" <*> optional "due_date" <*>
    required "created_at"

instance : Wire Request where
  encode request := record
    [put "id" request.id, put "company_id" request.companyId, put "title" request.title,
      put "description" request.description, put "priority" request.priority,
      put "status" request.status, put "asset_id" request.assetId,
      put "location_id" request.locationId, put "primary_user_id" request.userId,
      put "team_id" request.teamId, put "category_id" request.categoryId,
      put "due_date" request.dueDate, put "created_at" request.createdAt]
  read := Record.read <|
    (fun id companyId title description priority status assetId locationId userId teamId
        categoryId dueDate createdAt =>
      { id, companyId, title, description, priority, status, assetId, locationId, userId, teamId,
        categoryId, dueDate, createdAt : Request }) <$>
    required "id" <*> required "company_id" <*> required "title" <*> optional "description" <*>
    required "priority" <*> required "status" <*> optional "asset_id" <*>
    optional "location_id" <*> optional "primary_user_id" <*> optional "team_id" <*>
    optional "category_id" <*> optional "due_date" <*> required "created_at"

instance : Wire PurchaseOrder where
  encode order := record
    [put "id" order.id, put "company_id" order.companyId, put "name" order.name,
      put "status" order.status, put "vendor_id" order.vendorId,
      put "category_id" order.categoryId, put "created_at" order.createdAt]
  read := Record.read <|
    PurchaseOrder.mk <$> required "id" <*> required "company_id" <*> required "name" <*>
    required "status" <*> optional "vendor_id" <*> optional "category_id" <*>
    required "created_at"

instance : Wire Part where
  encode part := record
    [put "id" part.id, put "company_id" part.companyId, put "name" part.name,
      put "category_id" part.categoryId, put "vendor_id" part.vendorId,
      put "quantity" part.quantity, put "created_at" part.createdAt]
  read := Record.read <|
    Part.mk <$> required "id" <*> required "company_id" <*> required "name" <*>
    optional "category_id" <*> optional "vendor_id" <*> required "quantity" <*>
    required "created_at"

instance : Wire Task where
  encode task := record
    [put "id" task.id, put "work_order_id" task.workOrderId, put "asset_id" task.assetId,
      put "label" task.label, put "value" task.value, put "number_value" task.numberValue,
      put "created_at" task.createdAt]
  read := Record.read <|
    Task.mk <$> required "id" <*> required "work_order_id" <*> optional "asset_id" <*>
    required "label" <*> optional "value" <*> optional "number_value" <*>
    required "created_at"

instance : Wire Asset where
  encode asset := record
    [put "id" asset.id, put "company_id" asset.companyId, put "name" asset.name,
      put "status" asset.status, put "created_at" asset.createdAt]
  read := Record.read <|
    Asset.mk <$> required "id" <*> required "company_id" <*> required "name" <*>
    required "status" <*> required "created_at"

end Caretaker
