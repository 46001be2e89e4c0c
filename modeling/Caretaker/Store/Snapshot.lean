import Caretaker.Json.Printer
import Caretaker.Store.Basic

/-!
# Snapshots of the store

The store as one JSON text, so that it can lie in a file between two runs.  A table
is an array of rows, a row an array of its columns in their declared order.  A real
number is kept as the bits of its double, because decimal text would not always
give the same double back.
-/

namespace Caretaker

open Json

instance : Wire Cell where
  encode
    | .null => .null
    | .int n => .num (.int n)
    | .real x => .arr [ofNat x.toBits.toNat]
    | .text text => .str text
  read
    | .null => .ok .null
    | .num (.int n) => .ok (.int n)
    | .arr [.num (.int bits)] => .ok (.real (Float.ofBits bits.toNat.toUInt64))
    | .str text => .ok (.text text)
    | other => .error (faultOf other)

instance : Wire CompanyRow where
  encode row := .arr [encode row.id, encode row.name, encode row.createdAt]
  read := Record.read <|
    CompanyRow.mk <$> required "id" <*> required "name" <*> required "created_at"

instance : Wire UserRow where
  encode row := .arr [encode row.id, encode row.companyId, encode row.email, encode row.role]
  read := Record.read <|
    UserRow.mk <$> required "id" <*> required "company_id" <*> required "email" <*>
      required "role"

instance : Wire ConfigRow where
  encode row := .arr
    [encode row.id, encode row.companyId, encode row.apiKey, encode row.enabled,
      encode row.createdAt, encode row.updatedAt]
  read := Record.read <|
    ConfigRow.mk <$> required "id" <*> required "company_id" <*> required "api_key" <*>
      required "enabled" <*> required "created_at" <*> required "updated_at"

instance : Wire WorkflowRow where
  encode row := .arr
    [encode row.id, encode row.companyId, encode row.title, encode row.mainCondition,
      encode row.actionId, encode row.enabled, encode row.createdAt, encode row.updatedAt]
  read := Record.read <|
    WorkflowRow.mk <$> required "id" <*> required "company_id" <*> required "title" <*>
      required "main_condition" <*> required "action_id" <*> required "enabled" <*>
      required "created_at" <*> required "updated_at"

instance : Wire ActionRow where
  encode row := .arr
    [encode row.id, encode row.workOrderAction, encode row.requestAction,
      encode row.purchaseOrderAction, encode row.partAction, encode row.taskAction,
      encode row.teamId, encode row.userId, encode row.assetId, encode row.locationId,
      encode row.categoryId, encode row.vendorId, encode row.priority, encode row.assetStatus,
      encode row.value, encode row.numberValue]
  read := Record.read <|
    ActionRow.mk <$> required "id" <*> optional "work_order_action" <*>
      optional "request_action" <*> optional "purchase_order_action" <*>
      optional "part_action" <*> optional "task_action" <*> optional "team_id" <*>
      optional "user_id" <*> optional "asset_id" <*> optional "location_id" <*>
      optional "category_id" <*> optional "vendor_id" <*> optional "priority" <*>
      optional "asset_status" <*> optional "value" <*> required "number_value"

instance : Wire ConditionRow where
  encode row := .arr
    [encode row.id, encode row.workflowId, encode row.position, encode row.alertName,
      encode row.severity, encode row.label, encode row.value, encode row.numberValue,
      encode row.assetId, encode row.locationId, encode row.userId, encode row.teamId,
      encode row.vendorId, encode row.partId, encode row.categoryId, encode row.priority,
      encode row.workOrderStatus, encode row.purchaseOrderStatus, encode row.createdTimeStart,
      encode row.createdTimeEnd, encode row.startDate, encode row.endDate]
  read := Record.read <|
    ConditionRow.mk <$> required "id" <*> required "workflow_id" <*> required "position" <*>
      optional "alert_name" <*> optional "severity" <*> optional "label" <*>
      optional "value" <*> required "number_value" <*> optional "asset_id" <*>
      optional "location_id" <*> optional "user_id" <*> optional "team_id" <*>
      optional "vendor_id" <*> optional "part_id" <*> optional "category_id" <*>
      optional "priority" <*> optional "work_order_status" <*>
      optional "purchase_order_status" <*> optional "created_time_start" <*>
      optional "created_time_end" <*> optional "start_date" <*> optional "end_date"

instance : Wire AssetRow where
  encode row := .arr
    [encode row.id, encode row.companyId, encode row.name, encode row.status,
      encode row.createdAt]
  read := Record.read <|
    AssetRow.mk <$> required "id" <*> required "company_id" <*> required "name" <*>
      required "status" <*> required "created_at"

/-- The columns of a ticket. -/
def TicketRow.columns (row : TicketRow) : List Json :=
  [encode row.id, encode row.companyId, encode row.title, encode row.description,
    encode row.priority, encode row.status, encode row.assetId, encode row.locationId,
    encode row.userId, encode row.teamId, encode row.categoryId, encode row.dueDate,
    encode row.createdAt]

/-- The ticket that columns describe. -/
def TicketRow.record : Record TicketRow :=
  TicketRow.mk <$> required "id" <*> required "company_id" <*> required "title" <*>
    optional "description" <*> required "priority" <*> required "status" <*>
    optional "asset_id" <*> optional "location_id" <*> optional "user_id" <*>
    optional "team_id" <*> optional "category_id" <*> optional "due_date" <*>
    required "created_at"

instance : Wire TicketRow where
  encode row := .arr row.columns
  read := TicketRow.record.read

instance : Wire WorkOrderRow where
  encode row := .arr (row.toTicketRow.columns ++ [encode row.customId])
  read := Record.read <| WorkOrderRow.mk <$> TicketRow.record <*> optional "custom_id"

instance : Wire CounterRow where
  encode row := .arr [encode row.companyId, encode row.lastValue]
  read := Record.read <| CounterRow.mk <$> required "company_id" <*> required "last_value"

instance : Wire PurchaseOrderRow where
  encode row := .arr
    [encode row.id, encode row.companyId, encode row.name, encode row.status,
      encode row.vendorId, encode row.categoryId, encode row.createdAt]
  read := Record.read <|
    PurchaseOrderRow.mk <$> required "id" <*> required "company_id" <*> required "name" <*>
      required "status" <*> optional "vendor_id" <*> optional "category_id" <*>
      required "created_at"

instance : Wire Store where
  encode s := Json.record
    [put "companies" s.companies, put "users" s.users, put "webhook_configs" s.configs,
      put "workflows" s.workflows, put "workflow_actions" s.actions,
      put "workflow_conditions" s.conditions, put "assets" s.assets,
      put "work_orders" s.workOrders, put "work_order_counters" s.counters,
      put "requests" s.requests, put "purchase_orders" s.purchaseOrders,
      put "dropped" s.dropped]
  read := Record.read <|
    Store.mk <$> required "companies" <*> required "users" <*> required "webhook_configs" <*>
      required "workflows" <*> required "workflow_actions" <*>
      required "workflow_conditions" <*> required "assets" <*> required "work_orders" <*>
      required "work_order_counters" <*> required "requests" <*>
      required "purchase_orders" <*> required "dropped"

namespace Store

/-- The text of a snapshot. -/
def snapshot (s : Store) : String :=
  compact (encode s)

/-- The store in the bytes of a snapshot. -/
def ofSnapshot? (bytes : List UInt8) : Option Store :=
  (decodeText bytes : Except Fault Store).toOption

end Store

end Caretaker
