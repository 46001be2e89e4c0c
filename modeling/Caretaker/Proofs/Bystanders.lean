import Caretaker.Proofs.Desk.InStep
import Caretaker.Proofs.Desk.Preserving
import Caretaker.Proofs.Operations

/-!
# Internal events and the rows of other companies

An event is handled for a company, and the workflow that acts belongs to that company.
What the event saves is saved under an identifier that comes with it: that of its
subject, or of the asset of a task.  Whether a row with this identifier belongs to the
company is not asked; whoever reports an event vouches for that.

So the rows of other companies are left alone, apart from one that the event names.  Of
such a row the content may be replaced, while its identifier, its owner and its creation
time stay.
-/

namespace Caretaker

open Job

/-! ## Tables whose rows are saved again -/

/-- What a row keeps when it is saved again. -/
structure Stamp where
  id : String
  companyId : String
  createdAt : String
  deriving DecidableEq

/-- Rows that are merged with what is saved over them. -/
class Stamped (ρ : Type) where
  stamp : ρ → Stamp
  merge : ρ → ρ → ρ
  stamp_merge : ∀ old new, stamp (merge old new) = stamp old

open Stamped

attribute [simp] stamp_merge

instance : Stamped WorkOrderRow where
  stamp row := ⟨row.id, row.companyId, row.createdAt⟩
  merge := WorkOrderRow.merge
  stamp_merge _ _ := rfl

instance : Stamped TicketRow where
  stamp row := ⟨row.id, row.companyId, row.createdAt⟩
  merge := TicketRow.merge
  stamp_merge _ _ := rfl

instance : Stamped PurchaseOrderRow where
  stamp row := ⟨row.id, row.companyId, row.createdAt⟩
  merge := PurchaseOrderRow.merge
  stamp_merge _ _ := rfl

instance : Stamped AssetRow where
  stamp row := ⟨row.id, row.companyId, row.createdAt⟩
  merge := AssetRow.merge
  stamp_merge _ _ := rfl

section

variable {ρ : Type} [Stamped ρ]

/-- The row belongs to another company. -/
def isForeign (company : Uuid) (row : ρ) : Bool :=
  (stamp row).companyId != company.text

/-- The row has the identifier, if there is one. -/
def isNamed (id : Option Uuid) (row : ρ) : Bool :=
  id.any fun id => (stamp row).id == id.text

/-- The rows of other companies that the identifier does not name. -/
def bystanders (company : Uuid) (id : Option Uuid) (rows : List ρ) : List ρ :=
  rows.filter fun row => isForeign company row && !isNamed id row

/-- The stamps of the rows of other companies. -/
def foreignStamps (company : Uuid) (rows : List ρ) : List Stamp :=
  (rows.filter (isForeign company)).map stamp

/-- Save a row under an identifier. -/
def saveRow (id : Uuid) (row : ρ) (rows : List ρ) : List ρ :=
  Store.upsert (isNamed (some id)) merge row rows

variable {company id : Uuid} {row : ρ} {rows : List ρ}

theorem isForeign_merge (old new : ρ) : isForeign company (merge old new) = isForeign company old := by
  rw [isForeign, stamp_merge, isForeign]

theorem isNamed_merge (id : Option Uuid) (old new : ρ) :
    isNamed id (merge old new) = isNamed id old := by
  rw [isNamed, stamp_merge, isNamed]

/-- Saving under an identifier leaves the bystanders alone. -/
theorem bystanders_saveRow (named : (stamp row).id = id.text) :
    bystanders company (some id) (saveRow id row rows) = bystanders company (some id) rows := by
  have isNamed_row : isNamed (some id) row = true := beq_iff_eq.mpr named
  apply Store.filter_upsert_of_other
  · rw [isNamed_row, Bool.not_true, Bool.and_false]
  · intro old isOld
    rw [isNamed_merge, isOld, Bool.not_true, Bool.and_false, Bool.and_false]
    exact ⟨rfl, rfl⟩

/-- Saving a row adds and removes no row of another company, and gives no row another
identifier, owner or creation time.  The row belongs to the company, or is saved over one
that is there. -/
theorem foreignStamps_saveRow
    (known : isForeign company row = true → rows.any (isNamed (some id)) = true) :
    foreignStamps company (saveRow id row rows) = foreignStamps company rows := by
  unfold foreignStamps saveRow Store.upsert
  split
  · have sameForeign : (isForeign company ∘ fun old =>
        if isNamed (some id) old then merge old row else old) = isForeign company := by
      funext old
      rw [Function.comp_apply]
      split
      · exact isForeign_merge old row
      · rfl
    have sameStamp : (stamp ∘ fun old =>
        if isNamed (some id) old then merge old row else old) = stamp := by
      funext old
      rw [Function.comp_apply]
      split
      · exact stamp_merge old row
      · rfl
    rw [List.filter_map, List.map_map, sameForeign, sameStamp]
  · rename_i absent
    have own : ¬isForeign company row = true := fun foreign => absent (known foreign)
    rw [List.filter_append, List.filter_cons_of_neg own, List.filter_nil, List.append_nil]

theorem not_foreign_of_own (own : (stamp row).companyId = company.text) :
    ¬isForeign company row = true := by
  rw [isForeign, own, bne_self_eq_false]
  exact Bool.false_ne_true

end

/-! ## Events -/

/-- Something that happened inside the service. -/
inductive InternalEvent where
  | workOrder (order : WorkOrder)
  | request (request : Request)
  | purchaseOrder (order : PurchaseOrder)
  | part (part : Part)
  | task (company : Uuid) (task : Task)

namespace InternalEvent

/-- The company that the event is handled for. -/
def company : InternalEvent → Uuid
  | .workOrder order => order.companyId
  | .request subject => subject.companyId
  | .purchaseOrder order => order.companyId
  | .part subject => subject.companyId
  | .task owner _ => owner

/-- The row of a table that the event names: that of its subject, or of the asset of a
task. -/
def names : InternalEvent → Table → Option Uuid
  | .workOrder order, .workOrders => some order.id
  | .request subject, .requests => some subject.id
  | .purchaseOrder order, .purchaseOrders => some order.id
  | .task _ subject, .assets => subject.assetId
  | _, _ => none

/-- The desk after the event. -/
def after : InternalEvent → Desk → Desk
  | .workOrder order, desk => ((Engine.onWorkOrder order).run desk).2
  | .request subject, desk => ((Engine.onRequest subject).run desk).2
  | .purchaseOrder order, desk => ((Engine.onPurchaseOrder order).run desk).2
  | .part subject, desk => ((Engine.onPart subject).run desk).2
  | .task owner subject, desk => ((Engine.onTask owner subject).run desk).2

end InternalEvent

/-- What a store holds of other companies, when rows with certain identifiers are left
out of account. -/
structure Elsewhere where
  workOrders : List WorkOrderRow
  requests : List TicketRow
  purchaseOrders : List PurchaseOrderRow
  assets : List AssetRow

/-- The stamps of what a store holds of other companies. -/
structure ElsewhereStamps where
  workOrders : List Stamp
  requests : List Stamp
  purchaseOrders : List Stamp
  assets : List Stamp

namespace Store

/-- The rows of other companies, without those that are named. -/
def elsewhere (s : Store) (company : Uuid) (names : Table → Option Uuid) : Elsewhere where
  workOrders := bystanders company (names .workOrders) s.workOrders
  requests := bystanders company (names .requests) s.requests
  purchaseOrders := bystanders company (names .purchaseOrders) s.purchaseOrders
  assets := bystanders company (names .assets) s.assets

/-- Identifiers, owners and creation times of all rows of other companies. -/
def elsewhereStamps (s : Store) (company : Uuid) : ElsewhereStamps where
  workOrders := foreignStamps company s.workOrders
  requests := foreignStamps company s.requests
  purchaseOrders := foreignStamps company s.purchaseOrders
  assets := foreignStamps company s.assets

end Store

/-! ## What events preserve -/

namespace Store

variable {s s' : Store}

theorem eq_of_saveWorkOrder {order : WorkOrder} (saved : s.saveWorkOrder order = .ok s') :
    s' = { s with workOrders := saveRow order.id (.ofOrder order) s.workOrders } := by
  simp only [saveWorkOrder, bind_eq_ok_iff, pure_eq_ok_iff] at saved
  obtain ⟨_, -, rfl⟩ := saved
  rfl

theorem eq_of_saveRequest {request : Request} (saved : s.saveRequest request = .ok s') :
    s' = { s with requests := saveRow request.id (.ofTicket request.toTicket) s.requests } := by
  simp only [saveRequest, bind_eq_ok_iff, pure_eq_ok_iff] at saved
  obtain ⟨_, -, rfl⟩ := saved
  rfl

theorem eq_of_savePurchaseOrder {order : PurchaseOrder} (saved : s.savePurchaseOrder order = .ok s') :
    s' = { s with purchaseOrders := saveRow order.id (.ofOrder order) s.purchaseOrders } := by
  simp only [savePurchaseOrder, bind_eq_ok_iff, pure_eq_ok_iff] at saved
  obtain ⟨_, -, rfl⟩ := saved
  rfl

theorem eq_of_saveAsset {asset : Asset} (saved : s.saveAsset asset = .ok s') :
    s' = { s with assets := saveRow asset.id (.ofAsset asset) s.assets } := by
  simp only [saveAsset, bind_eq_ok_iff, pure_eq_ok_iff] at saved
  obtain ⟨_, -, rfl⟩ := saved
  rfl

/-- An asset that was found has the identifier it was looked up by, and its row is there. -/
theorem known_of_findAsset {id : Uuid} {asset : Asset} (found : s.findAsset id = .ok (some asset)) :
    asset.id = id ∧ s.assets.any (isNamed (some id)) = true := by
  simp only [findAsset, bind_eq_ok_iff] at found
  obtain ⟨_, -, answer⟩ := found
  cases located : s.assets.find? fun row => row.id == id.text with
  | none =>
      rw [located] at answer
      cases answer
  | some row =>
      have named := List.find?_some located
      rw [located] at answer
      simp only [readOne, AssetRow.asset, bind_eq_ok_iff, pure_eq_ok_iff, Option.some.injEq,
        eq_of_beq named, Stored.uuid_text, Except.ok.injEq] at answer
      obtain ⟨_, ⟨_, rfl, _, -, _, -, _, -, rfl⟩, rfl⟩ := answer
      exact ⟨rfl, List.any_eq_true.mpr ⟨row, List.mem_of_find?_eq_some located, named⟩⟩

end Store

namespace Desk

/-- What a desk holds of other companies, apart from the rows that an event names. -/
def others (event : InternalEvent) (desk : Desk) : Elsewhere × ElsewhereStamps :=
  (desk.store.elsewhere event.company event.names, desk.store.elsewhereStamps event.company)

theorem saveWorkOrder_preserves {order changed : WorkOrder} (sameId : changed.id = order.id)
    (sameCompany : changed.companyId = order.companyId) :
    Preserves (others (.workOrder order)) (saveWorkOrder changed) := by
  apply Preserves.through
  apply Preserves.write
  intro desk store saved
  have named : (Stamped.stamp (WorkOrderRow.ofOrder changed)).id = order.id.text :=
    congrArg Uuid.text sameId
  have own : (Stamped.stamp (WorkOrderRow.ofOrder changed)).companyId = order.companyId.text :=
    congrArg Uuid.text sameCompany
  rw [Store.eq_of_saveWorkOrder saved, sameId]
  simp only [others, Store.elsewhere, Store.elsewhereStamps, InternalEvent.company,
    InternalEvent.names, bystanders_saveRow named,
    foreignStamps_saveRow fun foreign => absurd foreign (not_foreign_of_own own)]

theorem saveRequest_preserves {request changed : Request} (sameId : changed.id = request.id)
    (sameCompany : changed.companyId = request.companyId) :
    Preserves (others (.request request)) (saveRequest changed) := by
  apply Preserves.through
  apply Preserves.write
  intro desk store saved
  have named : (Stamped.stamp (TicketRow.ofTicket changed.toTicket)).id = request.id.text :=
    congrArg Uuid.text sameId
  have own : (Stamped.stamp (TicketRow.ofTicket changed.toTicket)).companyId =
      request.companyId.text := congrArg Uuid.text sameCompany
  rw [Store.eq_of_saveRequest saved, sameId]
  simp only [others, Store.elsewhere, Store.elsewhereStamps, InternalEvent.company,
    InternalEvent.names, bystanders_saveRow named,
    foreignStamps_saveRow fun foreign => absurd foreign (not_foreign_of_own own)]

theorem savePurchaseOrder_preserves {order changed : PurchaseOrder} (sameId : changed.id = order.id)
    (sameCompany : changed.companyId = order.companyId) :
    Preserves (others (.purchaseOrder order)) (savePurchaseOrder changed) := by
  apply Preserves.through
  apply Preserves.write
  intro desk store saved
  have named : (Stamped.stamp (PurchaseOrderRow.ofOrder changed)).id = order.id.text :=
    congrArg Uuid.text sameId
  have own : (Stamped.stamp (PurchaseOrderRow.ofOrder changed)).companyId = order.companyId.text :=
    congrArg Uuid.text sameCompany
  rw [Store.eq_of_savePurchaseOrder saved, sameId]
  simp only [others, Store.elsewhere, Store.elsewhereStamps, InternalEvent.company,
    InternalEvent.names, bystanders_saveRow named,
    foreignStamps_saveRow fun foreign => absurd foreign (not_foreign_of_own own)]

/-- Saving an asset that was found by the identifier in a task, whoever owns it. -/
theorem saveAsset_spares {company : Uuid} {task : Task} {id : Uuid} {asset changed : Asset}
    (names : task.assetId = some id) {desk : Desk} (found : desk.store.findAsset id = .ok (some asset))
    (sameId : changed.id = asset.id) :
    others (.task company task) ((saveAsset changed).run desk).2 =
      others (.task company task) desk := by
  obtain ⟨isId, known⟩ := Store.known_of_findAsset found
  have named : (Stamped.stamp (AssetRow.ofAsset changed)).id = id.text :=
    congrArg Uuid.text (sameId.trans isId)
  unfold saveAsset through
  dsimp only
  split
  · rfl
  · rfl
  · rw [run_write]
    cases saved : desk.store.saveAsset changed with
    | error error => rfl
    | ok store =>
        dsimp only
        rw [Store.eq_of_saveAsset saved, sameId, isId]
        simp only [others, Store.elsewhere, Store.elsewhereStamps, InternalEvent.company,
          InternalEvent.names, names, bystanders_saveRow named, foreignStamps_saveRow fun _ => known]

end Desk

/-! ## Dispatches and events -/

namespace Dispatch

open Desk

theorem id_assign (t : Ticket) (field : Assignment) (action : Action) :
    (t.assign field action).id = t.id := by
  cases field <;> rfl

theorem companyId_assign (t : Ticket) (field : Assignment) (action : Action) :
    (t.assign field action).companyId = t.companyId := by
  cases field <;> rfl

/-- A change of a purchase order touches neither its identifier nor its owner. -/
theorem stays_of_apply {order changed : PurchaseOrder} {selected : PurchaseOrderAction}
    {action : Action} (applied : order.apply selected action = some changed) :
    changed.id = order.id ∧ changed.companyId = order.companyId := by
  cases selected <;> cases applied <;> exact ⟨rfl, rfl⟩

theorem saved_preserves {κ σ : Type} {part : Desk → κ} (subject : σ) {save : Job StoreError Unit}
    (preserves : Preserves part save) : Preserves part (saved subject save) := by
  apply Preserves.bind (Preserves.attempt preserves)
  intro result
  split <;> exact Preserves.pure _

theorem workOrder_preserves (w : Workflow) (order : WorkOrder) :
    Preserves (others (.workOrder order)) (workOrder w order) := by
  unfold workOrder
  split
  · exact Preserves.pure _
  · split
    · exact Preserves.pure _
    · apply saved_preserves
      exact saveWorkOrder_preserves (id_assign _ _ _) (companyId_assign _ _ _)

theorem request_preserves (w : Workflow) (subject : Request) :
    Preserves (others (.request subject)) (request w subject) := by
  unfold request
  split
  · exact Preserves.pure _
  · split
    · exact Preserves.pure _
    · apply saved_preserves
      exact saveRequest_preserves (id_assign _ _ _) (companyId_assign _ _ _)

theorem purchaseOrder_preserves (w : Workflow) (order : PurchaseOrder) :
    Preserves (others (.purchaseOrder order)) (purchaseOrder w order) := by
  unfold purchaseOrder
  split
  · exact Preserves.pure _
  · split
    · exact Preserves.pure _
    · rename_i changed selects
      obtain ⟨selected, -, applied⟩ := Option.bind_eq_some_iff.mp selects
      obtain ⟨sameId, sameCompany⟩ := stays_of_apply applied
      apply saved_preserves
      exact savePurchaseOrder_preserves sameId sameCompany

theorem part_preserves {κ : Type} {part : Desk → κ} (w : Workflow) (subject : Part) :
    Preserves part (Dispatch.part w subject) := by
  unfold Dispatch.part
  split <;> exact Preserves.pure _

theorem task_preserves (company : Uuid) (w : Workflow) (subject : Task) :
    Preserves (others (.task company subject)) (task w subject) := by
  unfold task
  split
  · exact Preserves.pure _
  · split
    · rename_i id status _ names _
      apply Preserves.bind_of_result (Preserves.of_looks (Looks.read _ _))
      intro desk found desk' run
      obtain ⟨value, answer, same⟩ := run_read_of_succeeds ⟨found, congrArg Prod.fst run⟩
      cases same.symm.trans run
      split
      · rfl
      · rename_i asset
        rw [run_bind_pure]
        exact saveAsset_spares names answer rfl
    · exact Preserves.pure _

end Dispatch

namespace Engine

open Desk

variable {κ : Type} {part : Desk → κ}

/-- An event preserves what the dispatch of any workflow preserves. -/
theorem onSubject_preserves {σ : Type} (company : Uuid) (subject : σ) (view : Subject)
    {dispatch : Workflow → Job StoreError (Except StoreError Effect × σ)}
    (preserves : ∀ w, Preserves part (dispatch w)) :
    Preserves part (onSubject company subject view dispatch) := by
  have selects : Preserves part (select company view.trigger view) := by
    apply Preserves.of_looks
    exact Looks.bind (Looks.read _ _) fun _ => Looks.pure _
  apply Preserves.bind (Preserves.attempt selects)
  intro selected
  split
  · exact Preserves.pure _
  · exact Preserves.pure _
  · exact Preserves.bind (preserves _) fun _ => Preserves.pure _

theorem unchanged_preserves {σ : Type} (subject : σ) {dispatch : Job StoreError Effect}
    (preserves : Preserves part dispatch) : Preserves part (unchanged subject dispatch) :=
  Preserves.bind (Preserves.attempt preserves) fun _ => Preserves.pure _

end Engine

namespace InternalEvent

open Desk

/-- Whatever a desk holds, and whatever identifiers come with an event: the rows of other
companies that the event does not name are the same afterwards, and no row of another
company comes, goes, or changes its identifier, its owner or its creation time. -/
theorem others_after (event : InternalEvent) (desk : Desk) :
    (event.after desk).store.elsewhere event.company event.names =
        desk.store.elsewhere event.company event.names ∧
      (event.after desk).store.elsewhereStamps event.company =
        desk.store.elsewhereStamps event.company := by
  have same : others event (event.after desk) = others event desk := by
    cases event with
    | workOrder order =>
        exact Engine.onSubject_preserves _ _ _ (fun w => Dispatch.workOrder_preserves w order) desk
    | request subject =>
        exact Engine.onSubject_preserves _ _ _ (fun w => Dispatch.request_preserves w subject) desk
    | purchaseOrder order =>
        exact Engine.onSubject_preserves _ _ _ (fun w => Dispatch.purchaseOrder_preserves w order)
          desk
    | part subject =>
        have dispatches (w : Workflow) : Preserves (others (.part subject)) _ :=
          Engine.unchanged_preserves subject (Dispatch.part_preserves w subject)
        exact Engine.onSubject_preserves _ _ _ dispatches desk
    | task company subject =>
        have dispatches (w : Workflow) :=
          Engine.unchanged_preserves subject (Dispatch.task_preserves company w subject)
        exact Engine.onSubject_preserves _ _ _ dispatches desk
  exact ⟨congrArg Prod.fst same, congrArg Prod.snd same⟩

/-- An asset of company 8. -/
def lentAsset : Asset where
  id := Uuid.ofNat 5
  companyId := Uuid.ofNat 8
  name := "Pump"
  status := .operational
  createdAt := newYear 2026 isDate_newYear2026

/-- A desk where every task of company 7 takes its asset out of service, and where
company 8 has an asset. -/
def lending : Desk :=
  let desk := (blank (newYear 2026 isDate_newYear2026)).serve
    [.createWorkflow (Uuid.ofNat 7)
      { title := "Out of service", trigger := .task, conditions := []
        action := some { Action.empty with
          taskAction := some .setAssetStatus, assetStatus := some .down } }]
  { desk with store := { desk.store with assets := [.ofAsset lentAsset] } }

/-- A task that names the asset. -/
def borrowingTask : Task where
  id := Uuid.ofNat 1
  workOrderId := Uuid.ofNat 2
  assetId := some lentAsset.id
  label := "Check"
  value := none
  numberValue := none
  createdAt := newYear 2026 isDate_newYear2026

/-- A task of one company that names the asset of another changes the row of that asset. -/
theorem foreign_asset_changes :
    ((InternalEvent.task (Uuid.ofNat 7) borrowingTask).after lending).store.assets.filter
        (isForeign (Uuid.ofNat 7)) ≠
      lending.store.assets.filter (isForeign (Uuid.ofNat 7)) := by
  decide +kernel

end InternalEvent

end Caretaker
