import Caretaker.Proofs.Filing

/-!
# Work orders, requests and assets after any number of saves

Whatever is saved, and in whatever order, the three tables have one row for each
identifier.  Whoever reads them finds under an identifier what the saves left standing
there, and in the list of a company the work orders or requests that were saved for this
company first.  A save is confined to one row of one table.

What carries this over a sequence is that each table has exactly the rows of the values
that its own saves have filed.
-/

namespace Caretaker

open Calendar Filed

/-- One save. -/
inductive SaveCall where
  | workOrder (order : WorkOrder)
  | request (request : Request)
  | asset (asset : Asset)

namespace SaveCall

/-- The work order that is saved. -/
def order? : SaveCall → Option WorkOrder
  | .workOrder order => some order
  | .request _ | .asset _ => none

/-- The request that is saved. -/
def request? : SaveCall → Option Request
  | .request subject => some subject
  | .workOrder _ | .asset _ => none

/-- The asset that is saved. -/
def asset? : SaveCall → Option Asset
  | .asset subject => some subject
  | .workOrder _ | .request _ => none

/-- The instants of what is saved. -/
def instants : SaveCall → List Instant
  | .workOrder order => order.toTicket.instants
  | .request subject => subject.toTicket.instants
  | .asset subject => subject.instants

/-- Two stores differ at most in the row that is saved. -/
def Confined (before after : Store) : SaveCall → Prop
  | .workOrder order => after = { before with workOrders := after.workOrders } ∧
      rowsBut order.id after.workOrders = rowsBut order.id before.workOrders
  | .request subject => after = { before with requests := after.requests } ∧
      rowsBut subject.id after.requests = rowsBut subject.id before.requests
  | .asset subject => after = { before with assets := after.assets } ∧
      rowsBut subject.id after.assets = rowsBut subject.id before.assets

end SaveCall

namespace Store

/-- Save a value in its table. -/
def save (s : Store) : SaveCall → Except StoreError Store
  | .workOrder order => s.saveWorkOrder order
  | .request subject => s.saveRequest subject
  | .asset subject => s.saveAsset subject

/-- Save one value after the other. -/
def saveAll (s : Store) (calls : List SaveCall) : Except StoreError Store :=
  calls.foldlM save s

/-- Whoever reads the store finds what the saves left standing. -/
structure Shows (s : Store) (calls : List SaveCall) : Prop where
  orderRows : OneEach s.workOrders (calls.filterMap SaveCall.order?)
  requestRows : OneEach s.requests (calls.filterMap SaveCall.request?)
  assetRows : OneEach s.assets (calls.filterMap SaveCall.asset?)
  findWorkOrder (id : Uuid) :
    s.findWorkOrder id = .ok (standing (calls.filterMap SaveCall.order?) id)
  findAsset (id : Uuid) :
    s.findAsset id = .ok (standing (calls.filterMap SaveCall.asset?) id)
  workOrdersOf (company : Uuid) : ∃ found, s.workOrdersOf company = .ok found ∧
    Lists (calls.filterMap SaveCall.order?) company found
  requestsOf (company : Uuid) : ∃ found, s.requestsOf company = .ok found ∧
    Lists (calls.filterMap SaveCall.request?) company found

/-! ## One save -/

/-- The store with a value saved in its table. -/
def saved (s : Store) : SaveCall → Store
  | .workOrder order =>
      { s with workOrders := saveRow order.id (.ofOrder order) s.workOrders }
  | .request subject =>
      { s with requests := saveRow subject.id (.ofTicket subject.toTicket) s.requests }
  | .asset subject =>
      { s with assets := saveRow subject.id (.ofAsset subject) s.assets }

variable {s : Store} {calls : List SaveCall}

/-- A save never fails. -/
theorem Intact.save (intact : s.Intact) (call : SaveCall) : s.save call = .ok (s.saved call) := by
  cases call with
  | workOrder order =>
      rw [Store.save, saveWorkOrder, intact.require, ok_bind]
      rfl
  | request subject =>
      rw [Store.save, saveRequest, intact.require, ok_bind]
      rfl
  | asset subject =>
      rw [Store.save, saveAsset, intact.require, ok_bind]
      rfl

/-- A save is confined to its row. -/
theorem confined_saved (s : Store) (call : SaveCall) : call.Confined s (s.saved call) := by
  cases call with
  | workOrder order => exact ⟨rfl, rowsBut_saveRow order s.workOrders⟩
  | request subject => exact ⟨rfl, rowsBut_saveRow subject s.requests⟩
  | asset subject => exact ⟨rfl, rowsBut_saveRow subject s.assets⟩

/-- The three tables have exactly the rows of what the saves have filed. -/
structure HasFiled (s : Store) (calls : List SaveCall) : Prop where
  intact : s.Intact
  workOrders : s.workOrders = (fileAll (calls.filterMap SaveCall.order?)).map row
  requests : s.requests = (fileAll (calls.filterMap SaveCall.request?)).map row
  assets : s.assets = (fileAll (calls.filterMap SaveCall.asset?)).map row

/-- A save files its value. -/
theorem HasFiled.saved (filed : s.HasFiled calls) (call : SaveCall) :
    (s.saved call).HasFiled (calls ++ [call]) := by
  obtain ⟨intact, workOrders, requests, assets⟩ := filed
  cases call with
  | workOrder order =>
      refine ⟨intact, ?_, ?_, ?_⟩ <;> rw [List.filterMap_append]
      · rw [Store.saved, workOrders]
        exact saveRow_fileAll _ order
      · exact (List.append_nil _).symm ▸ requests
      · exact (List.append_nil _).symm ▸ assets
  | request subject =>
      refine ⟨intact, ?_, ?_, ?_⟩ <;> rw [List.filterMap_append]
      · exact (List.append_nil _).symm ▸ workOrders
      · rw [Store.saved, requests]
        exact saveRow_fileAll _ subject
      · exact (List.append_nil _).symm ▸ assets
  | asset subject =>
      refine ⟨intact, ?_, ?_, ?_⟩ <;> rw [List.filterMap_append]
      · exact (List.append_nil _).symm ▸ workOrders
      · exact (List.append_nil _).symm ▸ requests
      · rw [Store.saved, assets]
        exact saveRow_fileAll _ subject

/-! ## Many saves -/

theorem HasFiled.saveAll (filed : s.HasFiled []) (calls : List SaveCall) :
    ∃ s', s.saveAll calls = .ok s' ∧ s'.HasFiled calls := by
  induction calls using List.reverseRecOn with
  | nil => exact ⟨s, rfl, filed⟩
  | append_singleton calls call ih =>
      obtain ⟨s', before, filed'⟩ := ih
      refine ⟨s'.saved call, ?_, filed'.saved call⟩
      rw [Store.saveAll, List.foldlM_append, ← Store.saveAll, before, ok_bind, List.foldlM_cons,
        filed'.intact.save, ok_bind]
      rfl

/-! ## Reading -/

section

variable {α ρ : Type} [Stamped ρ] [Filed α ρ] {picked : SaveCall → Option α}

/-- The saves of one kind only have legible instants when all saves do. -/
theorem legible_picked
    (same : ∀ call value, picked call = some value → call.instants = Filed.instants value)
    (legible : ∀ call ∈ calls, AllLegible call.instants) :
    ∀ value ∈ fileAll (calls.filterMap picked), AllLegible (Filed.instants value) := by
  apply legible_fileAll
  intro value member
  obtain ⟨call, memberCall, isPicked⟩ := List.mem_filterMap.mp member
  rw [← same call value isPicked]
  exact legible call memberCall

end

theorem HasFiled.shows (filed : s.HasFiled calls)
    (legible : ∀ call ∈ calls, AllLegible call.instants) : s.Shows calls := by
  have orders : ∀ call value, SaveCall.order? call = some value →
      call.instants = Filed.instants value := by
    rintro (order | subject | subject) value ⟨⟩
    rfl
  have requests : ∀ call value, SaveCall.request? call = some value →
      call.instants = Filed.instants value := by
    rintro (order | subject | subject) value ⟨⟩
    rfl
  have assets : ∀ call value, SaveCall.asset? call = some value →
      call.instants = Filed.instants value := by
    rintro (order | subject | subject) value ⟨⟩
    rfl
  constructor
  · exact filed.workOrders ▸ oneEach_fileAll _
  · exact filed.requests ▸ oneEach_fileAll _
  · exact filed.assets ▸ oneEach_fileAll _
  · intro id
    rw [Store.findWorkOrder, filed.intact.require, ok_bind, filed.workOrders, ← find?_fileAll]
    exact readOne_filed (legible_picked orders legible) id
  · intro id
    rw [Store.findAsset, filed.intact.require, ok_bind, filed.assets, ← find?_fileAll]
    exact readOne_filed (legible_picked assets legible) id
  · intro company
    rw [Store.workOrdersOf, filed.intact.require, ok_bind, filed.workOrders]
    exact ⟨_, readAll_filed (legible_picked orders legible) company,
      lists_ownedBy (legible_picked orders legible) company⟩
  · intro company
    rw [Store.requestsOf, filed.intact.require, ok_bind, filed.requests]
    exact ⟨_, readAll_filed (legible_picked requests legible) company,
      lists_ownedBy (legible_picked requests legible) company⟩

/-- After any saves in tables that were empty, whatever is saved next, there is one row for
each identifier and table, whoever reads finds what the saves left standing, and the next
save is confined to its row. -/
theorem saves_stand {s : Store} (intact : s.Intact) (noWorkOrders : s.workOrders = [])
    (noRequests : s.requests = []) (noAssets : s.assets = []) (calls : List SaveCall)
    (legible : ∀ call ∈ calls, AllLegible call.instants) :
    ∃ s', s.saveAll calls = .ok s' ∧ s'.Shows calls ∧
      ∀ next, ∃ s'', s'.save next = .ok s'' ∧ next.Confined s' s'' := by
  have start : s.HasFiled [] := ⟨intact, noWorkOrders, noRequests, noAssets⟩
  obtain ⟨s', run, filed⟩ := start.saveAll calls
  refine ⟨s', run, filed.shows legible, ?_⟩
  intro next
  exact ⟨s'.saved next, filed.intact.save next, confined_saved s' next⟩

/-- A work order without anything but its title. -/
def leakingPump : WorkOrder where
  toTicket := .fresh (Uuid.ofNat 1) (Uuid.ofNat 7)
    (Desk.newYear 2026 Desk.isDate_newYear2026) "Leaking pump"
  number := none

/-- The work order under the same identifier, as another company has it later. -/
def pumpReplaced : WorkOrder where
  toTicket := .fresh (Uuid.ofNat 1) (Uuid.ofNat 8)
    { Desk.newYear 2026 Desk.isDate_newYear2026 with hour := 9, valid := by decide } "Pump replaced"
  number := some "WO000012"

/-- The second save brings title and number, and leaves the work order to its company. -/
theorem saves_stand_pump :
    ∃ s', empty.saveAll [.workOrder leakingPump, .workOrder pumpReplaced] = .ok s' ∧
      s'.findWorkOrder (Uuid.ofNat 1) = .ok (some { pumpReplaced with
        companyId := Uuid.ofNat 7
        createdAt := leakingPump.createdAt }) ∧
      ∀ next, ∃ s'', s'.save next = .ok s'' ∧ next.Confined s' s'' := by
  have legible : ∀ call ∈ [SaveCall.workOrder leakingPump, .workOrder pumpReplaced],
      AllLegible call.instants := by
    have first : leakingPump.createdAt.Legible := by decide
    have second : pumpReplaced.createdAt.Legible := by decide
    simp only [List.forall_mem_cons, SaveCall.instants, Ticket.instants, allLegible_append,
      allLegible_cons]
    exact ⟨⟨by simp [leakingPump, Ticket.fresh], first, allLegible_nil⟩,
      ⟨by simp [pumpReplaced, Ticket.fresh], second, allLegible_nil⟩, by simp⟩
  have intact : empty.Intact := rfl
  obtain ⟨s', run, shows, confined⟩ := saves_stand intact rfl rfl rfl _ legible
  exact ⟨s', run, shows.findWorkOrder (Uuid.ofNat 1), confined⟩

end Store

end Caretaker
