import Caretaker.Proofs.MaintenanceTables
import Caretaker.Proofs.SelectedChange
import Caretaker.Proofs.Store.Reading

/-!
# Work orders and requests on the same path

A work order without its number is a request.  What a workflow does to a work order, a
workflow with the same conditions, the same selector and the same value does to the
request: both dispatches end alike, and the request becomes what the work order becomes,
without the number.

Two desks mirror each other when one has as requests what the other has as work orders.
They still do after dispatches of that kind, one after the other, and so whoever lists the
requests of a company at one desk finds the work orders of the other.
-/

namespace Caretaker

open Job

/-! ## Ends of jobs -/

/-- How a job ended, with its result in other terms. -/
def Outcome.map {ε α β : Type} (f : α → β) : Outcome ε α → Outcome ε β
  | .done value => .done (f value)
  | .failed error => .failed error
  | .stalled => .stalled

/-- How a dispatch ended, with the request in place of the work order. -/
def Outcome.asRequest :
    Outcome StoreError (Except StoreError Effect × WorkOrder) →
      Outcome StoreError (Except StoreError Effect × Request) :=
  Outcome.map (Prod.map id WorkOrder.request)

/-- Do one job after the other, however they end. -/
def Job.runAll {ε α : Type} : List (Job ε α) → Desk → List (Outcome ε α) × Desk
  | [], desk => ([], desk)
  | job :: rest, desk =>
      let (outcome, desk) := job.run desk
      let (outcomes, desk) := runAll rest desk
      (outcome :: outcomes, desk)

/-! ## Tables -/

namespace Store

theorem map_upsert {ρ τ : Type} {f : ρ → τ} {same : ρ → Bool} {same' : τ → Bool}
    {merge : ρ → ρ → ρ} {merge' : τ → τ → τ} (sameKey : ∀ row, same' (f row) = same row)
    (merges : ∀ old new, f (merge old new) = merge' (f old) (f new)) (row : ρ) (rows : List ρ) :
    (upsert same merge row rows).map f = upsert same' merge' (f row) (rows.map f) := by
  have there : (rows.map f).any same' = rows.any same := by
    simp only [List.any_map, Function.comp_def, sameKey]
  unfold upsert
  rw [there]
  split
  · rw [List.map_map, List.map_map]
    apply List.map_congr_left
    intro old _
    rw [Function.comp_apply, Function.comp_apply, sameKey]
    split
    · exact merges old row
    · rfl
  · rw [List.map_append]
    rfl

/-- Reading rows in other terms reads the same values, in other terms. -/
theorem readAll_map_of {ρ τ α β : Type} {read : ρ → Except StoreError α}
    {read' : τ → Except StoreError β} {f : ρ → τ} {g : α → β}
    (reads : ∀ row, read' (f row) = (read row).map g) (rows : List ρ) :
    readAll read' (rows.map f) = (readAll read rows).map (List.map g) := by
  induction rows with
  | nil => rfl
  | cons row rest ih =>
      rw [List.map_cons, readAll, readAll, reads, ih]
      cases read row with
      | error error => rfl
      | ok value => cases readAll read rest <;> rfl

theorem readRequest_toTicketRow (row : WorkOrderRow) :
    readRequest row.toTicketRow = row.order.map WorkOrder.request := by
  rw [readRequest, WorkOrderRow.order]
  cases row.toTicketRow.ticket <;> rfl

end Store

/-- Saving a row and taking the columns of tickets can be done in either order. -/
theorem saveRow_toTicketRow (id : Uuid) (row : WorkOrderRow) (rows : List WorkOrderRow) :
    (saveRow id row rows).map WorkOrderRow.toTicketRow =
      saveRow id row.toTicketRow (rows.map WorkOrderRow.toTicketRow) := by
  have sameKey (row : WorkOrderRow) :
      isNamed (some id) row.toTicketRow = isNamed (some id) row := by
    rw [isNamed, isNamed]
    rfl
  have merges (old new : WorkOrderRow) :
      (Stamped.merge old new).toTicketRow = Stamped.merge old.toTicketRow new.toTicketRow := by
    rfl
  rw [saveRow, saveRow, Store.map_upsert sameKey merges]

/-! ## Desks that mirror each other -/

/-- One desk has as requests what the other has as work orders, and their channels are in
the same state. -/
structure Desk.Mirrors (desk other : Desk) : Prop where
  rows : other.store.requests = desk.store.workOrders.map WorkOrderRow.toTicketRow
  workOrders : .workOrders ∉ desk.store.dropped
  requests : .requests ∉ other.store.dropped
  saving : other.outages.lookup .saveRequest = desk.outages.lookup .saveWorkOrder
  listing : other.outages.lookup .listRequests = desk.outages.lookup .listWorkOrders

namespace Desk.Mirrors

variable {desk other : Desk}

/-- Saving a work order at one desk and the request at the other ends alike, and afterwards
the desks mirror each other again. -/
theorem save (mirrors : desk.Mirrors other) (order : WorkOrder) :
    ((saveRequest order.request).run other).1 = ((saveWorkOrder order).run desk).1 ∧
      ((saveWorkOrder order).run desk).2.Mirrors ((saveRequest order.request).run other).2 := by
  have there : desk.store.require .workOrders = .ok () := if_neg mirrors.workOrders
  have there' : other.store.require .requests = .ok () := if_neg mirrors.requests
  unfold saveRequest saveWorkOrder through
  dsimp only
  rw [mirrors.saving]
  split
  · exact ⟨rfl, mirrors⟩
  · exact ⟨rfl, mirrors⟩
  · rw [run_write, run_write, Store.saveRequest_eq there', Store.saveWorkOrder_eq there]
    refine ⟨rfl, { mirrors with rows := ?_ }⟩
    rw [mirrors.rows]
    exact (saveRow_toTicketRow order.id (.ofOrder order) desk.store.workOrders).symm

/-- The requests of a company at one desk are the work orders at the other. -/
theorem list (mirrors : desk.Mirrors other) (company : Uuid) :
    ((listRequests company).run other).1 =
      ((listWorkOrders company).run desk).1.map (List.map WorkOrder.request) := by
  have there : desk.store.require .workOrders = .ok () := if_neg mirrors.workOrders
  have there' : other.store.require .requests = .ok () := if_neg mirrors.requests
  have answer : other.store.requestsOf company =
      (desk.store.workOrdersOf company).map (List.map WorkOrder.request) := by
    rw [Store.requestsOf, Store.workOrdersOf, there, there', mirrors.rows, List.filter_map,
      Store.oldestFirst_map]
    exact Store.readAll_map_of Store.readRequest_toTicketRow _
  unfold listRequests listWorkOrders through
  dsimp only
  rw [mirrors.listing]
  split
  · rfl
  · rfl
  · rw [run_read, run_read, answer]
    cases desk.store.workOrdersOf company <;> rfl

end Desk.Mirrors

/-! ## Twins -/

/-- A work order with a workflow for it, and a workflow that has the same conditions, the
same selector and the same value for the request. -/
structure Twin where
  order : WorkOrder
  forOrder : Workflow
  forRequest : Workflow
  conditions : forRequest.conditions = forOrder.conditions
  selected : forRequest.action.requestAction = forOrder.action.workOrderAction
  payload : TicketAction.AgreeOn forRequest.action forOrder.action forOrder.action.workOrderAction

namespace Twin

/-- Run the one workflow on the work order. -/
def onOrder (twin : Twin) : Job StoreError (Except StoreError Effect × WorkOrder) :=
  Dispatch.workOrder twin.forOrder twin.order

/-- Run the other workflow on the request. -/
def onRequest (twin : Twin) : Job StoreError (Except StoreError Effect × Request) :=
  Dispatch.request twin.forRequest twin.order.request

/-- A work order satisfies what its request does. -/
theorem holds_request (c : Condition) (order : WorkOrder) :
    c.holds (.request order.request) = c.holds (.workOrder order) :=
  rfl

variable {desk other : Desk}

/-- Answering with a subject that was saved at one desk, and with its request at the
other. -/
theorem saved_alike (order : WorkOrder) {save saveOther : Job StoreError Unit}
    (ended : (saveOther.run other).1 = (save.run desk).1)
    (mirrors : (save.run desk).2.Mirrors (saveOther.run other).2) :
    ((Dispatch.saved order.request saveOther).run other).1 =
        ((Dispatch.saved order save).run desk).1.asRequest ∧
      ((Dispatch.saved order save).run desk).2.Mirrors
        ((Dispatch.saved order.request saveOther).run other).2 := by
  rw [Dispatch.saved, Dispatch.saved, run_bind, run_bind, run_attempt, run_attempt]
  rcases run : save.run desk with ⟨outcome, desk'⟩
  rcases run' : saveOther.run other with ⟨outcome', other'⟩
  rw [run, run'] at ended mirrors
  dsimp only at ended
  subst ended
  -- However saving ended, both answer with the subject as it now is.
  cases outcome' with
  | done value => exact ⟨rfl, mirrors⟩
  | failed error => exact ⟨rfl, mirrors⟩
  | stalled => exact ⟨rfl, mirrors⟩

/-- At desks that mirror each other both dispatches end alike, and afterwards the desks
mirror each other again. -/
theorem step (twin : Twin) (mirrors : desk.Mirrors other) :
    (twin.onRequest.run other).1 = (twin.onOrder.run desk).1.asRequest ∧
      (twin.onOrder.run desk).2.Mirrors (twin.onRequest.run other).2 := by
  obtain ⟨order, w, w', conditions, selected, payload⟩ := twin
  have sameMatch : w'.matchesSubject (.request order.request) =
      w.matchesSubject (.workOrder order) := by
    rw [Workflow.matchesSubject, conditions]
    rfl
  unfold onOrder onRequest Dispatch.workOrder Dispatch.request
  dsimp only
  rw [sameMatch, selected]
  split
  · exact ⟨rfl, mirrors⟩
  · split
    · exact ⟨rfl, mirrors⟩
    · rename_i field assigned
      have sameTicket : order.request.toTicket.assign field w'.action =
          order.toTicket.assign field w.action := TicketAction.assign_congr assigned payload _
      rw [sameTicket]
      obtain ⟨ended, mirrors'⟩ := mirrors.save ⟨order.toTicket.assign field w.action, order.number⟩
      exact saved_alike ⟨order.toTicket.assign field w.action, order.number⟩ ended mirrors'

/-- A dispatch leaves the number of a work order alone. -/
theorem number_onOrder (twin : Twin) {desk : Desk} {result : Except StoreError Effect}
    {changed : WorkOrder} (done : (twin.onOrder.run desk).1 = .done (result, changed)) :
    changed.number = twin.order.number := by
  unfold onOrder Dispatch.workOrder at done
  split at done
  · cases done
    rfl
  · split at done
    · cases done
      rfl
    · dsimp only at done
      rw [Dispatch.saved, run_bind, run_attempt] at done
      rcases saves : (Desk.saveWorkOrder _).run desk with ⟨value | error | _, desk'⟩ <;>
        rw [saves] at done <;> cases done <;> rfl

/-! ## One after the other -/

/-- Dispatches on work orders and on their requests, one after the other at two desks,
agree in everything but the numbers, which stay as they are. -/
structure Agree (twins : List Twin) (desk other : Desk) : Prop where
  satisfied : ∀ twin ∈ twins, ∀ c : Condition,
    c.holds (.request twin.order.request) = c.holds (.workOrder twin.order)
  ended : (runAll (twins.map onRequest) other).1 =
    (runAll (twins.map onOrder) desk).1.map Outcome.asRequest
  numbered : List.Forall₂ (fun twin outcome => ∀ result changed,
      outcome = .done (result, changed) → changed.number = twin.order.number)
    twins (runAll (twins.map onOrder) desk).1
  listed : ∀ company,
    ((Desk.listRequests company).run (runAll (twins.map onRequest) other).2).1 =
      ((Desk.listWorkOrders company).run (runAll (twins.map onOrder) desk).2).1.map
        (List.map WorkOrder.request)

/-- Desks that mirror each other do so after any dispatches, which end alike. -/
theorem run (twins : List Twin) (mirrors : desk.Mirrors other) :
    (runAll (twins.map onRequest) other).1 =
        (runAll (twins.map onOrder) desk).1.map Outcome.asRequest ∧
      (runAll (twins.map onOrder) desk).2.Mirrors (runAll (twins.map onRequest) other).2 := by
  induction twins generalizing desk other with
  | nil => exact ⟨rfl, mirrors⟩
  | cons twin rest ih =>
      obtain ⟨ended, mirrors'⟩ := twin.step mirrors
      obtain ⟨endedRest, mirrorsRest⟩ := ih mirrors'
      refine ⟨?_, mirrorsRest⟩
      simp only [List.map_cons, runAll, ended, endedRest]

theorem numbered_run (twins : List Twin) (desk : Desk) :
    List.Forall₂ (fun twin outcome => ∀ result changed,
        outcome = .done (result, changed) → changed.number = twin.order.number)
      twins (runAll (twins.map onOrder) desk).1 := by
  induction twins generalizing desk with
  | nil => exact .nil
  | cons twin rest ih => exact .cons (fun _ _ => twin.number_onOrder) (ih _)

/-- Work orders and requests take the same path. -/
theorem agree (twins : List Twin) (mirrors : desk.Mirrors other) : Agree twins desk other where
  satisfied twin _ c := holds_request c twin.order
  ended := (run twins mirrors).1
  numbered := numbered_run twins desk
  listed := (run twins mirrors).2.list

/-- A workflow that gives tickets to a team, or does not, with something to tell it from
others. -/
def handOver (orders requests : Option TicketAction) (vendor : Option Uuid) : Workflow where
  id := Uuid.ofNat 9
  companyId := Uuid.ofNat 7
  title := "Hand over"
  trigger := .workOrder
  conditions := [{ Condition.empty with workOrderStatus := some .opened }]
  action := { Action.empty with
    workOrderAction := orders, requestAction := requests, team := some (Uuid.ofNat 3), vendor }
  enabled := true
  createdAt := Desk.newYear 2026 Desk.isDate_newYear2026
  updatedAt := Desk.newYear 2026 Desk.isDate_newYear2026

/-- Two workflows that give the leaking pump to a team, and differ in all that does not
matter. -/
def handedOver : Twin where
  order := Store.leakingPump
  forOrder := handOver (some .assignTeam) none none
  forRequest := handOver (some .addChecklist) (some .assignTeam) (some (Uuid.ofNat 4))
  conditions := rfl
  selected := rfl
  payload := rfl

/-- A desk with a work order in its store. -/
def withOrder : Desk :=
  { Desk.blank (Desk.newYear 2026 Desk.isDate_newYear2026) with
    store := { Store.empty with workOrders := [.ofOrder Store.pumpReplaced] } }

/-- A desk with the request in its store. -/
def withRequest : Desk :=
  { Desk.blank (Desk.newYear 2026 Desk.isDate_newYear2026) with
    store := { Store.empty with requests := [.ofTicket Store.pumpReplaced.toTicket] } }

theorem mirrors_withRequest : withOrder.Mirrors withRequest where
  rows := rfl
  workOrders := List.not_mem_nil
  requests := List.not_mem_nil
  saving := rfl
  listing := rfl

/-- Handing the work order over twice, and the request as well. -/
theorem agree_handedOver :
    withOrder.Mirrors withRequest ∧ Agree [handedOver, handedOver] withOrder withRequest :=
  ⟨mirrors_withRequest, agree _ mirrors_withRequest⟩

end Twin

end Caretaker
