import Caretaker.Store.Rows

/-!
# The store

All tables of the service as one value.  Rows stand in the order in which they were
added.  An operation either returns what it read and the store after it, or an
error; on an error nothing has been written.

A table can be missing, and then whatever touches it fails.
-/

namespace Caretaker

/-- The tables with their rows, and the tables that are gone. -/
structure Store where
  companies : List CompanyRow
  users : List UserRow
  configs : List ConfigRow
  workflows : List WorkflowRow
  actions : List ActionRow
  conditions : List ConditionRow
  assets : List AssetRow
  workOrders : List WorkOrderRow
  counters : List CounterRow
  requests : List TicketRow
  purchaseOrders : List PurchaseOrderRow
  dropped : List Table

namespace Store

/-- The store without any row. -/
def empty : Store :=
  ⟨[], [], [], [], [], [], [], [], [], [], [], []⟩

/-- The table can be used. -/
def require (s : Store) (table : Table) : Except StoreError Unit :=
  if table ∈ s.dropped then .error (.query (.missingTable table)) else .ok ()

/-- How many values the database takes in one query. -/
def valueLimit : Nat := 32766

/-- The database takes a query with this many values. -/
def takeValues (count : Nat) : Except StoreError Unit :=
  if count ≤ valueLimit then .ok () else .error (.query .tooManyValues)

theorem takeValues_of_le {count : Nat} (few : count ≤ valueLimit) : takeValues count = .ok () :=
  if_pos few

theorem takeValues_of_lt {count : Nat} (many : valueLimit < count) :
    takeValues count = .error (.query .tooManyValues) :=
  if_neg (Nat.not_le.mpr many)

theorem takeValues_eq_ok_iff {count : Nat} {u : Unit} :
    takeValues count = .ok u ↔ count ≤ valueLimit := by
  unfold takeValues
  split <;> simp [*]

/-- Replace the rows that `same` picks by their merge with `row`; without such a row,
add `row` at the end. -/
def upsert {ρ : Type} (same : ρ → Bool) (merge : ρ → ρ → ρ) (row : ρ) (rows : List ρ) : List ρ :=
  if rows.any same then rows.map fun old => if same old then merge old row else old
  else rows ++ [row]

/-- Two pairs of texts, by their first and then by their second part. -/
def textsLE (a b : String × String) : Bool :=
  decide (a.1 < b.1) || (a.1 == b.1 && decide (a.2 ≤ b.2))

/-- Rows by creation time and then by identifier, both compared as text. -/
def oldestFirst {ρ : Type} (key : ρ → String × String) (rows : List ρ) : List ρ :=
  rows.mergeSort fun a b => textsLE (key a) (key b)

/-- Read every row, or report the first that cannot be read. -/
def readAll {ρ α : Type} (read : ρ → Except StoreError α) : List ρ → Except StoreError (List α)
  | [] => .ok []
  | row :: rest => do
      let value ← read row
      let values ← readAll read rest
      return value :: values

/-- Read the row that was found, if any. -/
def readOne {ρ α : Type} (read : ρ → Except StoreError α) :
    Option ρ → Except StoreError (Option α)
  | none => .ok none
  | some row => do
      let value ← read row
      return some value

end Store

end Caretaker
