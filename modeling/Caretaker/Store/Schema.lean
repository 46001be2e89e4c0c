import Caretaker.Store.Basic
import Caretaker.Store.Numeral

/-!
# Tables by name

Repairs reach into the store by the names of tables and columns: a table is
counted or removed, a column is overwritten in one row or in all.  Such a change is
refused when it would empty a column that must not be empty, repeat a value that
has to be unique, or leave a reference without its target.
-/

namespace Caretaker.Store

open Json Text

/-- A column that can be overwritten with a text or emptied. -/
structure Column (ρ : Type) where
  name : String
  mayBeEmpty : Bool
  /-- The content, if it has to be unique. -/
  unique : Option (ρ → String)
  set : ρ → Option String → ρ

variable {ρ : Type}

/-- A text column that is never empty. -/
def Column.text (name : String) (set : ρ → String → ρ) : Column ρ :=
  ⟨name, false, none, fun row value => set row (value.getD "")⟩

/-- A text column with a different content in every row. -/
def Column.key (name : String) (get : ρ → String) (set : ρ → String → ρ) : Column ρ :=
  ⟨name, false, some get, fun row value => set row (value.getD "")⟩

/-- A text column that may be empty. -/
def Column.optional (name : String) (set : ρ → Option String → ρ) : Column ρ :=
  ⟨name, true, none, set⟩

/-- An integer column that is never empty. -/
def Column.integer (name : String) (set : ρ → Cell → ρ) : Column ρ :=
  ⟨name, false, none, fun row value => set row ((value.map Cell.integerOfText).getD .null)⟩

/-- A column of real numbers. -/
def Column.real (name : String) (set : ρ → Cell → ρ) : Column ρ :=
  ⟨name, true, none, fun row value => set row ((value.map Cell.realOfText).getD .null)⟩

/-- The columns of `companies`. -/
def companyColumns : List (Column CompanyRow) :=
  [.key "id" (·.id) fun r v => { r with id := v },
   .text "name" fun r v => { r with name := v },
   .text "created_at" fun r v => { r with createdAt := v }]

/-- The columns of `users`. -/
def userColumns : List (Column UserRow) :=
  [.key "id" (·.id) fun r v => { r with id := v },
   .text "company_id" fun r v => { r with companyId := v },
   .key "email" (·.email) fun r v => { r with email := v },
   .text "role" fun r v => { r with role := v }]

/-- The columns of `webhook_configs`. -/
def configColumns : List (Column ConfigRow) :=
  [.key "id" (·.id) fun r v => { r with id := v },
   .key "company_id" (·.companyId) fun r v => { r with companyId := v },
   .key "api_key" (·.apiKey) fun r v => { r with apiKey := v },
   .integer "enabled" fun r v => { r with enabled := v },
   .text "created_at" fun r v => { r with createdAt := v },
   .text "updated_at" fun r v => { r with updatedAt := v }]

/-- The columns of `workflow_actions`. -/
def actionColumns : List (Column ActionRow) :=
  [.key "id" (·.id) fun r v => { r with id := v },
   .optional "work_order_action" fun r v => { r with workOrderAction := v },
   .optional "request_action" fun r v => { r with requestAction := v },
   .optional "purchase_order_action" fun r v => { r with purchaseOrderAction := v },
   .optional "part_action" fun r v => { r with partAction := v },
   .optional "task_action" fun r v => { r with taskAction := v },
   .optional "team_id" fun r v => { r with teamId := v },
   .optional "user_id" fun r v => { r with userId := v },
   .optional "asset_id" fun r v => { r with assetId := v },
   .optional "location_id" fun r v => { r with locationId := v },
   .optional "category_id" fun r v => { r with categoryId := v },
   .optional "vendor_id" fun r v => { r with vendorId := v },
   .optional "priority" fun r v => { r with priority := v },
   .optional "asset_status" fun r v => { r with assetStatus := v },
   .optional "value" fun r v => { r with value := v },
   .real "number_value" fun r v => { r with numberValue := v }]

/-- The columns of `workflows`. -/
def workflowColumns : List (Column WorkflowRow) :=
  [.key "id" (·.id) fun r v => { r with id := v },
   .text "company_id" fun r v => { r with companyId := v },
   .text "title" fun r v => { r with title := v },
   .text "main_condition" fun r v => { r with mainCondition := v },
   .key "action_id" (·.actionId) fun r v => { r with actionId := v },
   .integer "enabled" fun r v => { r with enabled := v },
   .text "created_at" fun r v => { r with createdAt := v },
   .text "updated_at" fun r v => { r with updatedAt := v }]

/-- The columns of `workflow_conditions`. -/
def conditionColumns : List (Column ConditionRow) :=
  [.key "id" (·.id) fun r v => { r with id := v },
   .text "workflow_id" fun r v => { r with workflowId := v },
   .integer "position" fun r v => { r with position := v },
   .optional "alert_name" fun r v => { r with alertName := v },
   .optional "severity" fun r v => { r with severity := v },
   .optional "label" fun r v => { r with label := v },
   .optional "value" fun r v => { r with value := v },
   .real "number_value" fun r v => { r with numberValue := v },
   .optional "asset_id" fun r v => { r with assetId := v },
   .optional "location_id" fun r v => { r with locationId := v },
   .optional "user_id" fun r v => { r with userId := v },
   .optional "team_id" fun r v => { r with teamId := v },
   .optional "vendor_id" fun r v => { r with vendorId := v },
   .optional "part_id" fun r v => { r with partId := v },
   .optional "category_id" fun r v => { r with categoryId := v },
   .optional "priority" fun r v => { r with priority := v },
   .optional "work_order_status" fun r v => { r with workOrderStatus := v },
   .optional "purchase_order_status" fun r v => { r with purchaseOrderStatus := v },
   .optional "created_time_start" fun r v => { r with createdTimeStart := v },
   .optional "created_time_end" fun r v => { r with createdTimeEnd := v },
   .optional "start_date" fun r v => { r with startDate := v },
   .optional "end_date" fun r v => { r with endDate := v }]

/-- The columns of `assets`. -/
def assetColumns : List (Column AssetRow) :=
  [.key "id" (·.id) fun r v => { r with id := v },
   .text "company_id" fun r v => { r with companyId := v },
   .text "name" fun r v => { r with name := v },
   .text "status" fun r v => { r with status := v },
   .text "created_at" fun r v => { r with createdAt := v }]

/-- The columns of `requests`. -/
def ticketColumns : List (Column TicketRow) :=
  [.key "id" (·.id) fun r v => { r with id := v },
   .text "company_id" fun r v => { r with companyId := v },
   .text "title" fun r v => { r with title := v },
   .optional "description" fun r v => { r with description := v },
   .text "priority" fun r v => { r with priority := v },
   .text "status" fun r v => { r with status := v },
   .optional "asset_id" fun r v => { r with assetId := v },
   .optional "location_id" fun r v => { r with locationId := v },
   .optional "primary_user_id" fun r v => { r with userId := v },
   .optional "team_id" fun r v => { r with teamId := v },
   .optional "category_id" fun r v => { r with categoryId := v },
   .optional "due_date" fun r v => { r with dueDate := v },
   .text "created_at" fun r v => { r with createdAt := v }]

/-- The columns of `work_orders`: those of a ticket, and the number. -/
def workOrderColumns : List (Column WorkOrderRow) :=
  .optional "custom_id" (fun r v => { r with customId := v }) ::
    ticketColumns.map fun column =>
      { name := column.name
        mayBeEmpty := column.mayBeEmpty
        unique := column.unique.map fun get row => get row.toTicketRow
        set := fun row value => { row with toTicketRow := column.set row.toTicketRow value } }

/-- The columns of `work_order_counters`. -/
def counterColumns : List (Column CounterRow) :=
  [.key "company_id" (·.companyId) fun r v => { r with companyId := v },
   .integer "last_value" fun r v => { r with lastValue := v }]

/-- The columns of `purchase_orders`. -/
def purchaseOrderColumns : List (Column PurchaseOrderRow) :=
  [.key "id" (·.id) fun r v => { r with id := v },
   .text "company_id" fun r v => { r with companyId := v },
   .text "name" fun r v => { r with name := v },
   .text "status" fun r v => { r with status := v },
   .optional "vendor_id" fun r v => { r with vendorId := v },
   .optional "category_id" fun r v => { r with categoryId := v },
   .text "created_at" fun r v => { r with createdAt := v }]

/-- No text occurs twice. -/
def allDistinct : List String → Bool
  | [] => true
  | text :: rest => !rest.contains text && allDistinct rest

/-- Overwrite a column in the rows that `picked` selects.  The answer has the number
of those rows; `none` is a change that the table does not allow. -/
def overwriteRows (columns : List (Column ρ)) (picked : ρ → Bool) (name : String)
    (value : Option String) (rows : List ρ) : Option (Nat × List ρ) := do
  let column ← columns.find? fun column => column.name == name
  let count := (rows.filter picked).length
  if count = 0 then return (0, rows)
  if value.isNone && !column.mayBeEmpty then none
  let changed := rows.map fun row => if picked row then column.set row value else row
  match column.unique with
  | some get => if !allDistinct (changed.map get) then none
  | none => pure ()
  return (count, changed)

/-- Every reference in the store has its target. -/
def referencesHold (s : Store) : Bool :=
  s.users.all (fun row => s.companies.any fun company => company.id == row.companyId) &&
    s.configs.all (fun row => s.companies.any fun company => company.id == row.companyId) &&
    s.workflows.all (fun row => s.actions.any fun action => action.id == row.actionId) &&
    s.conditions.all (fun row => s.workflows.any fun workflow => workflow.id == row.workflowId)

/-- The row is the one with the wanted identifier, if one is wanted. -/
def isRow (id : Option String) (rowId : String) : Bool :=
  match id with
  | none => true
  | some wanted => rowId == wanted

/-- Overwrite a column of a table, in the row with an identifier or in all rows, and
count the rows. -/
def overwrite (s : Store) (table : Table) (column : String) (value id : Option String) :
    Option (Nat × Store) := do
  if table ∈ s.dropped then none
  let (count, changed) ← match table with
    | .companies => do
        let (n, rows) ← overwriteRows companyColumns (isRow id ·.id) column value s.companies
        pure (n, { s with companies := rows })
    | .users => do
        let (n, rows) ← overwriteRows userColumns (isRow id ·.id) column value s.users
        pure (n, { s with users := rows })
    | .webhookConfigs => do
        let (n, rows) ← overwriteRows configColumns (isRow id ·.id) column value s.configs
        pure (n, { s with configs := rows })
    | .workflows => do
        let (n, rows) ← overwriteRows workflowColumns (isRow id ·.id) column value s.workflows
        pure (n, { s with workflows := rows })
    | .workflowActions => do
        let (n, rows) ← overwriteRows actionColumns (isRow id ·.id) column value s.actions
        pure (n, { s with actions := rows })
    | .workflowConditions => do
        let (n, rows) ← overwriteRows conditionColumns (isRow id ·.id) column value s.conditions
        pure (n, { s with conditions := rows })
    | .assets => do
        let (n, rows) ← overwriteRows assetColumns (isRow id ·.id) column value s.assets
        pure (n, { s with assets := rows })
    | .workOrders => do
        let (n, rows) ← overwriteRows workOrderColumns (isRow id ·.id) column value s.workOrders
        pure (n, { s with workOrders := rows })
    | .workOrderCounters => do
        if id.isSome then none
        let (n, rows) ← overwriteRows counterColumns (fun _ => true) column value s.counters
        pure (n, { s with counters := rows })
    | .requests => do
        let (n, rows) ← overwriteRows ticketColumns (isRow id ·.id) column value s.requests
        pure (n, { s with requests := rows })
    | .purchaseOrders => do
        let (n, rows) ← overwriteRows purchaseOrderColumns (isRow id ·.id) column value
          s.purchaseOrders
        pure (n, { s with purchaseOrders := rows })
  if changed.referencesHold then return (count, changed) else none

/-- The number of rows of a table that is there. -/
def count? (s : Store) (table : Table) : Option Nat :=
  if table ∈ s.dropped then none
  else some <| match table with
    | .companies => s.companies.length
    | .users => s.users.length
    | .webhookConfigs => s.configs.length
    | .workflows => s.workflows.length
    | .workflowActions => s.actions.length
    | .workflowConditions => s.conditions.length
    | .assets => s.assets.length
    | .workOrders => s.workOrders.length
    | .workOrderCounters => s.counters.length
    | .requests => s.requests.length
    | .purchaseOrders => s.purchaseOrders.length

/-- The purchase orders as they are stored, by identifier. -/
def orderRows? (s : Store) : Option (List PurchaseOrderRow) :=
  if Table.purchaseOrders ∈ s.dropped then none
  else some (s.purchaseOrders.mergeSort fun a b => decide (a.id ≤ b.id))

/-- Other tables point at this one, so it stays. -/
def isReferenced (table : Table) : Bool :=
  table == .companies || table == .workflows || table == .workflowActions

/-- Remove a table that nothing points at. -/
def dropTable (s : Store) (table : Table) : Option Store :=
  if table ∈ s.dropped || isReferenced table then none
  else
    let s := { s with dropped := table :: s.dropped }
    some <| match table with
      | .users => { s with users := [] }
      | .webhookConfigs => { s with configs := [] }
      | .workflowConditions => { s with conditions := [] }
      | .assets => { s with assets := [] }
      | .workOrders => { s with workOrders := [] }
      | .workOrderCounters => { s with counters := [] }
      | .requests => { s with requests := [] }
      | .purchaseOrders => { s with purchaseOrders := [] }
      | .companies | .workflows | .workflowActions => s

end Caretaker.Store
