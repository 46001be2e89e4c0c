import Caretaker.Store.Basic
import Caretaker.Store.Numeral

/-!
# Maintenance objects in the store

Saving an object a second time replaces everything but its owner and its creation
time.  Work orders of a company are numbered by a counter that only ever goes up.
-/

namespace Caretaker.Store

open Text

/-- Save an asset. -/
def saveAsset (s : Store) (asset : Asset) : Except StoreError Store := do
  s.require .assets
  return { s with
    assets := upsert (fun row => row.id == asset.id.text) AssetRow.merge (.ofAsset asset) s.assets }

/-- The asset with an identifier. -/
def findAsset (s : Store) (id : Uuid) : Except StoreError (Option Asset) := do
  s.require .assets
  readOne AssetRow.asset (s.assets.find? fun row => row.id == id.text)

/-- Save a work order. -/
def saveWorkOrder (s : Store) (order : WorkOrder) : Except StoreError Store := do
  s.require .workOrders
  return { s with
    workOrders := upsert (fun row => row.id == order.id.text) WorkOrderRow.merge (.ofOrder order)
      s.workOrders }

/-- The work order with an identifier. -/
def findWorkOrder (s : Store) (id : Uuid) : Except StoreError (Option WorkOrder) := do
  s.require .workOrders
  readOne WorkOrderRow.order (s.workOrders.find? fun row => row.id == id.text)

/-- The work orders of a company, oldest first. -/
def workOrdersOf (s : Store) (company : Uuid) : Except StoreError (List WorkOrder) := do
  s.require .workOrders
  readAll WorkOrderRow.order (oldestFirst (fun row => (row.createdAt, row.id))
    (s.workOrders.filter fun row => row.companyId == company.text))

/-- Save a request. -/
def saveRequest (s : Store) (request : Request) : Except StoreError Store := do
  s.require .requests
  return { s with
    requests := upsert (fun row => row.id == request.id.text) TicketRow.merge
      (.ofTicket request.toTicket) s.requests }

/-- The request in a row. -/
def readRequest (row : TicketRow) : Except StoreError Request := do
  let ticket ← row.ticket
  return ⟨ticket⟩

/-- The requests of a company, oldest first. -/
def requestsOf (s : Store) (company : Uuid) : Except StoreError (List Request) := do
  s.require .requests
  readAll readRequest (oldestFirst (fun row => (row.createdAt, row.id))
    (s.requests.filter fun row => row.companyId == company.text))

/-- Save a purchase order. -/
def savePurchaseOrder (s : Store) (order : PurchaseOrder) : Except StoreError Store := do
  s.require .purchaseOrders
  return { s with
    purchaseOrders := upsert (fun row => row.id == order.id.text) PurchaseOrderRow.merge
      (.ofOrder order) s.purchaseOrders }

/-- A running number for people: at least six digits, the sign among them. -/
def orderNumber (n : Int) : String :=
  let digits := if 0 ≤ n then padded 6 n.toNat else '-' :: padded 5 n.natAbs
  "WO" ++ String.ofList digits

/-- Move the counter of a company on.  The answer is its new content. -/
def advanceCounter (s : Store) (company : Uuid) : Except StoreError (Cell × Store) := do
  s.require .workOrderCounters
  let next := match s.counters.find? fun row => row.companyId == company.text with
    | some row => row.lastValue.successor
    | none => .int 1
  let counters := upsert (fun row => row.companyId == company.text) (fun _ new => new)
    ⟨company.text, next⟩ s.counters
  return (next, { s with counters })

/-- The number for people behind the content of a counter. -/
def readCounter : Cell → Except StoreError String
  | .int n => .ok (orderNumber n)
  | other => .error (.query (.mistypedCell "0" .integer other.kind))

end Caretaker.Store
