import Caretaker.Vocabulary

/-!
# Storage errors

Why the store could not do what it was asked.  A query fails when a stored text no
longer reads as what it stands for, when a table is gone, when a row would point at
nothing, or when it is given more values than the database takes; a conflict is a second
row where there may be only one.
-/

namespace Caretaker

open Json

/-- The tables of the store. -/
inductive Table where
  | companies
  | users
  | webhookConfigs
  | workflows
  | workflowActions
  | workflowConditions
  | assets
  | workOrders
  | workOrderCounters
  | requests
  | purchaseOrders
  deriving DecidableEq

instance : Worded Table where
  all := [.companies, .users, .webhookConfigs, .workflows, .workflowActions, .workflowConditions,
    .assets, .workOrders, .workOrderCounters, .requests, .purchaseOrders]
  word
    | .companies => "companies"
    | .users => "users"
    | .webhookConfigs => "webhook_configs"
    | .workflows => "workflows"
    | .workflowActions => "workflow_actions"
    | .workflowConditions => "workflow_conditions"
    | .assets => "assets"
    | .workOrders => "work_orders"
    | .workOrderCounters => "work_order_counters"
    | .requests => "requests"
    | .purchaseOrders => "purchase_orders"

/-- What a number or a truth value is read from. -/
inductive CellKind where
  | integer
  | real
  | text
  | null
  deriving DecidableEq

/-- The name of a kind of cell. -/
def CellKind.name : CellKind → String
  | .integer => "INTEGER"
  | .real => "REAL"
  | .text => "TEXT"
  | .null => "NULL"

/-- What a reader wants from a cell that is not text. -/
inductive CellType where
  | truth
  | integer
  | optionalReal
  deriving DecidableEq

/-- How a wanted type is named when a cell does not have it. -/
def CellType.description : CellType → String
  | .truth => "Rust type \x60bool\x60 (as SQL type \x60BOOLEAN\x60)"
  | .integer => "Rust type \x60i64\x60 (as SQL type \x60INTEGER\x60)"
  | .optionalReal => "Rust type \x60core::option::Option<f64>\x60 (as SQL type \x60REAL\x60)"

/-- Why a query failed. -/
inductive QueryError where
  | invalidInstant (text : String)
  | invalidUuid (text : String)
  | invalidWord (text : String)
  | unknownWord (unknown : UnknownWord)
  | mistypedCell (column : String) (wanted : CellType) (found : CellKind)
  | missingTable (table : Table)
  | repeatedKey (table : Table)
  | danglingReference
  | tooManyValues
  | reported (text : String)
  deriving DecidableEq

/-- How a failed query is reported. -/
def QueryError.message : QueryError → String
  | .invalidInstant _ => "invalid datetime: not an instant"
  | .invalidUuid text => "invalid uuid '" ++ text ++ "': not an identifier"
  | .invalidWord text => "invalid enum value '" ++ text ++ "': not one of the known words"
  | .unknownWord unknown => unknown.message
  | .mistypedCell column wanted found =>
      "error occurred while decoding column " ++ column ++ ": mismatched types; " ++
        wanted.description ++ " is not compatible with SQL type \x60" ++ found.name ++ "\x60"
  | .missingTable table =>
      "error returned from database: (code: 1) no such table: " ++ word table
  | .repeatedKey table =>
      "error returned from database: (code: 1555) UNIQUE constraint failed: " ++ word table ++ ".id"
  | .danglingReference =>
      "error returned from database: (code: 787) FOREIGN KEY constraint failed"
  | .tooManyValues =>
      "error returned from database: (code: 1) too many SQL variables"
  | .reported text => text

/-- What there may be only one of. -/
inductive Conflict where
  | company (id : String)
  | email (address : String)
  | config (owner : String)
  | apiKey
  | workflow (id : String)
  | reported (text : String)
  deriving DecidableEq

/-- How a conflict is reported. -/
def Conflict.message : Conflict → String
  | .company id => "company " ++ id ++ " already exists"
  | .email address => "email " ++ address ++ " already registered"
  | .config owner => "company " ++ owner ++ " already has a webhook config"
  | .apiKey => "api key already in use"
  | .workflow id => "workflow " ++ id ++ " already exists"
  | .reported text => text

/-- Why the store could not do what it was asked. -/
inductive StoreError where
  | connection
  | query (cause : QueryError)
  | notFound
  | conflict (clash : Conflict)
  deriving DecidableEq

/-- How a storage error is reported. -/
def StoreError.message : StoreError → String
  | .connection => "database connection error"
  | .query cause => "query error: " ++ cause.message
  | .notFound => "entity not found"
  | .conflict clash => "conflict: " ++ clash.message

end Caretaker
