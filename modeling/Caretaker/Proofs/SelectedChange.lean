import Caretaker.Engine.Events
import Caretaker.Proofs.Bystanders
import Caretaker.Proofs.Store.Candidates

/-!
# The selected change

A dispatch carries out the change that the selector for its kind of subject names, and
nothing else.  Nothing happens unless all conditions hold, or when the selector is unset
or has no effect.  Otherwise one field of the subject gets its new value, and one row is
written, under the identifier of what was changed.

What changes and when nothing changes is told by relations that do not speak of how a
dispatch is made.  What they do not mention, a dispatch does not depend on: neither the
selectors for other kinds of subjects nor any value that the selected change does not use.
-/

namespace Caretaker

open Job Stamped

/-! ## Writing one row -/

section

variable {ρ : Type} [Stamped ρ] {id : Uuid} {new : ρ} {rows : List ρ}

/-- A row is written under an identifier: over the one row that has it, or as an additional
row where none has it.  The other rows stay. -/
inductive WritesRow (id : Uuid) (new : ρ) : List ρ → List ρ → Prop where
  | over {before after : List ρ} {old : ρ} (named : (stamp old).id = id.text)
      (others : ∀ row ∈ before ++ after, (stamp row).id ≠ id.text) :
      WritesRow id new (before ++ old :: after) (before ++ merge old new :: after)
  | added {rows : List ρ} (others : ∀ row ∈ rows, (stamp row).id ≠ id.text) :
      WritesRow id new rows (rows ++ [new])

theorem isNamed_eq_true_iff {row : ρ} : isNamed (some id) row = true ↔ (stamp row).id = id.text :=
  beq_iff_eq

theorem isNamed_eq_false_iff {row : ρ} : isNamed (some id) row = false ↔ (stamp row).id ≠ id.text :=
  beq_eq_false_iff_ne

/-- The rows around one of a table have other identifiers. -/
theorem others_of_nodup {before after : List ρ} {old : ρ} (named : (stamp old).id = id.text)
    (distinct : ((before ++ old :: after).map fun row => (stamp row).id).Nodup) :
    ∀ row ∈ before ++ after, (stamp row).id ≠ id.text := by
  intro row member same
  have front : (before ++ old :: after).Perm (old :: (before ++ after)) := List.perm_middle
  have distinct' := (front.map fun row => (stamp row).id).nodup_iff.mp distinct
  rw [List.map_cons, List.nodup_cons, named] at distinct'
  exact distinct'.1 (List.mem_map.mpr ⟨row, member, same⟩)

/-- Rows under other identifiers stay as they are when a row is saved. -/
theorem map_merge_of_others {part : List ρ} (others : ∀ row ∈ part, (stamp row).id ≠ id.text) :
    (part.map fun old => if isNamed (some id) old then merge old new else old) = part := by
  have stays : ∀ old ∈ part, (if isNamed (some id) old then merge old new else old) = old := by
    intro old member
    rw [isNamed_eq_false_iff.mpr (others old member)]
    rfl
  rw [List.map_congr_left stays, List.map_id']

theorem saveRow_around {before after : List ρ} {old : ρ} (named : (stamp old).id = id.text)
    (others : ∀ row ∈ before ++ after, (stamp row).id ≠ id.text) :
    saveRow id new (before ++ old :: after) = before ++ merge old new :: after := by
  have isOld : isNamed (some id) old = true := isNamed_eq_true_iff.mpr named
  have there : (before ++ old :: after).any (isNamed (some id)) = true :=
    List.any_eq_true.mpr ⟨old, by simp, isOld⟩
  rw [List.forall_mem_append] at others
  rw [saveRow, Store.upsert, if_pos there, List.map_append, List.map_cons, if_pos isOld,
    map_merge_of_others others.1, map_merge_of_others others.2]

/-- Saving a row in a table with distinct identifiers writes one row. -/
theorem writesRow_saveRow (distinct : (rows.map fun row => (stamp row).id).Nodup) :
    WritesRow id new rows (saveRow id new rows) := by
  by_cases there : ∃ old ∈ rows, (stamp old).id = id.text
  · obtain ⟨old, member, named⟩ := there
    obtain ⟨before, after, rfl⟩ := List.append_of_mem member
    have others := others_of_nodup named distinct
    rw [saveRow_around named others]
    exact .over named others
  · simp only [not_exists, not_and] at there
    rw [saveRow, Store.upsert_of_absent fun old member => isNamed_eq_false_iff.mpr (there old member)]
    exact .added there

end

/-! ## What dispatches work with -/

namespace Store

/-- A store that dispatches can work with: every table is there, the identifiers in a table
are distinct, and the assets can be read. -/
structure Serviceable (s : Store) : Prop where
  intact : s.Intact
  workOrderIds : (s.workOrders.map fun row => row.id).Nodup
  requestIds : (s.requests.map fun row => row.id).Nodup
  purchaseOrderIds : (s.purchaseOrders.map fun row => row.id).Nodup
  assetIds : (s.assets.map fun row => row.id).Nodup
  assets : ∀ row ∈ s.assets, ∃ asset, row.asset = .ok asset

variable {s : Store}

theorem saveWorkOrder_eq (there : s.require .workOrders = .ok ()) (order : WorkOrder) :
    s.saveWorkOrder order =
      .ok { s with workOrders := saveRow order.id (.ofOrder order) s.workOrders } := by
  rw [saveWorkOrder, there]
  rfl

theorem saveRequest_eq (there : s.require .requests = .ok ()) (request : Request) :
    s.saveRequest request =
      .ok { s with requests := saveRow request.id (.ofTicket request.toTicket) s.requests } := by
  rw [saveRequest, there]
  rfl

theorem savePurchaseOrder_eq (there : s.require .purchaseOrders = .ok ()) (order : PurchaseOrder) :
    s.savePurchaseOrder order =
      .ok { s with purchaseOrders := saveRow order.id (.ofOrder order) s.purchaseOrders } := by
  rw [savePurchaseOrder, there]
  rfl

theorem Intact.withAssets (intact : s.Intact) (rows : List AssetRow) :
    { s with assets := rows }.Intact :=
  intact

/-- The asset that is found is the one in the row with the identifier. -/
theorem findAsset_around (intact : s.Intact) {id : Uuid} {before after : List AssetRow}
    {old : AssetRow} {asset : Asset} (table : s.assets = before ++ old :: after)
    (named : old.id = id.text) (others : ∀ row ∈ before ++ after, row.id ≠ id.text)
    (reads : old.asset = .ok asset) : s.findAsset id = .ok (some asset) := by
  have absent : before.find? (fun row => row.id == id.text) = none := by
    rw [List.find?_eq_none]
    intro row member
    rw [beq_iff_eq]
    exact others row (List.mem_append_left after member)
  have picked : (old :: after).find? (fun row => row.id == id.text) = some old :=
    List.find?_cons_of_pos (beq_iff_eq.mpr named)
  rw [findAsset, intact.require, ok_bind, table, List.find?_append, absent, Option.none_or, picked,
    readOne, reads]
  rfl

theorem findAsset_of_unknown (intact : s.Intact) {id : Uuid}
    (unknown : ∀ row ∈ s.assets, row.id ≠ id.text) : s.findAsset id = .ok none := by
  have absent : s.assets.find? (fun row => row.id == id.text) = none := by
    rw [List.find?_eq_none]
    intro row member
    rw [beq_iff_eq]
    exact unknown row member
  rw [findAsset, intact.require, absent]
  rfl

theorem saveAsset_eq (there : s.require .assets = .ok ()) (asset : Asset) :
    s.saveAsset asset = .ok { s with assets := saveRow asset.id (.ofAsset asset) s.assets } := by
  rw [saveAsset, there]
  rfl

end Store

/-- An asset that is saved with another status over the row it was read from is read again
with this status, and is otherwise as it was. -/
theorem AssetRow.asset_merge_status {old : AssetRow} {asset : Asset} (reads : old.asset = .ok asset)
    (status : AssetStatus) :
    (old.merge (.ofAsset { asset with status })).asset = .ok { asset with status } := by
  simp only [AssetRow.asset, bind_eq_ok_iff, pure_eq_ok_iff] at reads
  obtain ⟨id, readsId, companyId, readsCompany, before, -, createdAt, readsTime, rfl⟩ := reads
  simp only [AssetRow.asset, AssetRow.merge, AssetRow.ofAsset, readsId, readsCompany, readsTime,
    Stored.exact_word, ok_bind]
  rfl

/-- Every channel is in order, and so is the store. -/
structure Desk.Serviceable (desk : Desk) : Prop where
  working : desk.outages = []
  store : desk.store.Serviceable

theorem Job.run_write_of_ok {channel : Channel} {f : Store → Except StoreError Store} {desk : Desk}
    {store : Store} (working : desk.outages = []) (written : f desk.store = .ok store) :
    (through channel (write f)).run desk = (.done (), { desk with store }) := by
  rw [run_through (by simp [working]), run_write, written]

/-! ## Selected changes -/

namespace TicketAction

/-- The selector is unset or has no effect. -/
def Idle (selected : Option TicketAction) : Prop :=
  selected = none ∨ selected = some .addChecklist ∨ selected = some .sendReminderEmail

/-- What the selector makes of a ticket. -/
inductive Changes (action : Action) (t : Ticket) : Option TicketAction → Ticket → Prop where
  | team : Changes action t (some .assignTeam) { t with teamId := action.team }
  | user : Changes action t (some .assignUser) { t with userId := action.user }
  | asset : Changes action t (some .assignAsset) { t with assetId := action.asset }
  | category : Changes action t (some .assignCategory) { t with categoryId := action.category }
  | location : Changes action t (some .assignLocation) { t with locationId := action.location }
  | priority {priority : Priority} (given : action.priority = some priority) :
      Changes action t (some .assignPriority) { t with priority }
  | noPriority (absent : action.priority = none) :
      Changes action t (some .assignPriority) { t with priority := .none }

/-- The actions have the same value where the selector looks for one. -/
def AgreeOn (a b : Action) : Option TicketAction → Prop
  | some .assignTeam => a.team = b.team
  | some .assignUser => a.user = b.user
  | some .assignAsset => a.asset = b.asset
  | some .assignCategory => a.category = b.category
  | some .assignLocation => a.location = b.location
  | some .assignPriority => a.priority = b.priority
  | some .addChecklist | some .sendReminderEmail | none => True

theorem assignment?_eq_none_iff {selected : Option TicketAction} :
    selected.bind assignment? = none ↔ Idle selected := by
  cases selected with
  | none => simp [Idle]
  | some kind => cases kind <;> simp [Idle, assignment?]

/-- The assignment that a selector stands for makes the selected change. -/
theorem changes_assign {action : Action} {selected : Option TicketAction} {field : Assignment}
    (assigned : selected.bind assignment? = some field) (t : Ticket) :
    Changes action t selected (t.assign field action) := by
  cases selected with
  | none => cases assigned
  | some kind =>
      cases kind with
      | assignTeam => cases assigned; exact .team
      | assignUser => cases assigned; exact .user
      | assignAsset => cases assigned; exact .asset
      | assignCategory => cases assigned; exact .category
      | assignLocation => cases assigned; exact .location
      | assignPriority =>
          cases assigned
          cases given : action.priority with
          | some priority =>
              simp only [Ticket.assign, given, Option.getD_some]
              exact .priority given
          | none =>
              simp only [Ticket.assign, given, Option.getD_none]
              exact .noPriority given
      | addChecklist => cases assigned
      | sendReminderEmail => cases assigned

theorem assign_congr {a b : Action} {selected : Option TicketAction} {field : Assignment}
    (assigned : selected.bind assignment? = some field) (agree : AgreeOn a b selected) (t : Ticket) :
    t.assign field a = t.assign field b := by
  cases selected with
  | none => cases assigned
  | some kind =>
      cases kind <;> cases assigned <;> rw [AgreeOn] at agree <;>
        simp only [Ticket.assign, agree]

end TicketAction

namespace PurchaseOrderAction

/-- The selector is unset or has no effect. -/
def Idle (selected : Option PurchaseOrderAction) : Prop :=
  selected = none ∨ selected = some .sendReminderEmail

/-- What the selector makes of a purchase order. -/
inductive Changes (action : Action) (order : PurchaseOrder) :
    Option PurchaseOrderAction → PurchaseOrder → Prop where
  | approve : Changes action order (some .approve) { order with status := .approved }
  | reject : Changes action order (some .reject) { order with status := .rejected }
  | vendor : Changes action order (some .assignVendor) { order with vendorId := action.vendor }

/-- The actions have the same value where the selector looks for one. -/
def AgreeOn (a b : Action) : Option PurchaseOrderAction → Prop
  | some .assignVendor => a.vendor = b.vendor
  | some .approve | some .reject | some .sendReminderEmail | none => True

theorem apply_eq_none_iff {action : Action} {order : PurchaseOrder}
    {selected : Option PurchaseOrderAction} :
    (selected.bind fun kind => order.apply kind action) = none ↔ Idle selected := by
  cases selected with
  | none => simp [Idle]
  | some kind => cases kind <;> simp [Idle, PurchaseOrder.apply]

theorem changes_apply {action : Action} {order changed : PurchaseOrder}
    {selected : Option PurchaseOrderAction}
    (applied : (selected.bind fun kind => order.apply kind action) = some changed) :
    Changes action order selected changed := by
  cases selected with
  | none => cases applied
  | some kind =>
      cases kind with
      | approve => cases applied; exact .approve
      | reject => cases applied; exact .reject
      | assignVendor => cases applied; exact .vendor
      | sendReminderEmail => cases applied

theorem apply_congr {a b : Action} {selected : Option PurchaseOrderAction}
    (agree : AgreeOn a b selected) (order : PurchaseOrder) :
    (selected.bind fun kind => order.apply kind a) = selected.bind fun kind => order.apply kind b := by
  cases selected with
  | none => rfl
  | some kind =>
      cases kind with
      | assignVendor =>
          rw [AgreeOn] at agree
          simp only [Option.bind_some, PurchaseOrder.apply, agree]
      | _ => rfl

/-- A selected change leaves the identifier alone. -/
theorem Changes.id {action : Action} {order changed : PurchaseOrder}
    {selected : Option PurchaseOrderAction} (changes : Changes action order selected changed) :
    changed.id = order.id := by
  cases changes <;> rfl

end PurchaseOrderAction

namespace TaskAction

/-- The selector has no effect on tasks, or there is nothing that it could change: no asset
in the task, no status in the action, or no such asset in the store. -/
def Idle (action : Action) (task : Task) (s : Store) : Prop :=
  action.taskAction ≠ some .setAssetStatus ∨ task.assetId = none ∨ action.assetStatus = none ∨
    ∃ id, task.assetId = some id ∧ ∀ row ∈ s.assets, row.id ≠ id.text

/-- What the selector makes of the assets: that of the task has the status in the action,
and is otherwise as it was. -/
inductive Changes (action : Action) (task : Task) (s : Store) : Store → Prop where
  | status {id : Uuid} {status : AssetStatus} {asset : Asset} {rows : List AssetRow}
      (selected : action.taskAction = some .setAssetStatus) (named : task.assetId = some id)
      (given : action.assetStatus = some status)
      (found : s.findAsset id = .ok (some asset))
      (written : WritesRow id (.ofAsset { asset with status }) s.assets rows)
      (stored : { s with assets := rows }.findAsset id = .ok (some { asset with status })) :
      Changes action task s { s with assets := rows }

/-- The actions have the same value where the selector looks for one. -/
def AgreeOn (a b : Action) : Option TaskAction → Prop
  | some .setAssetStatus => a.assetStatus = b.assetStatus
  | some .createWorkOrder | some .createRequest | none => True

end TaskAction

/-! ## Verdicts -/

namespace Dispatch

section

variable {σ : Type}

/-- How a dispatch of a workflow ends at a desk: with which effect, and with which subject
and which desk afterwards. -/
structure Verdict (w : Workflow) (view : Subject) (idle : Prop) (changes : σ → Store → Prop)
    (subject : σ) (desk : Desk) (effect : Effect) (changed : σ) (after : Desk) : Prop where
  /-- Some condition fails. -/
  conditionsNotMet : effect = .conditionsNotMet ↔ ∃ c ∈ w.conditions, c.holds view = false
  /-- All conditions hold, but there is nothing to do. -/
  nothing : effect = .nothing ↔ (∀ c ∈ w.conditions, c.holds view = true) ∧ idle
  /-- All conditions hold, and there is something to do. -/
  applied : effect = .applied ↔ (∀ c ∈ w.conditions, c.holds view = true) ∧ ¬idle
  /-- Whatever was not applied leaves subject and desk alone. -/
  untouched : effect ≠ .applied → changed = subject ∧ after = desk
  /-- What was applied makes the change, and touches nothing but the store. -/
  changes : effect = .applied →
    changes changed after.store ∧ after = { desk with store := after.store }

/-- The dispatch makes the selected change unless a condition fails or the selector is
idle, and changes nothing else. -/
def CarriesOut (job : Job StoreError (Except StoreError Effect × σ)) (w : Workflow) (view : Subject)
    (idle : Prop) (changes : σ → Store → Prop) (subject : σ) (desk : Desk) : Prop :=
  ∃ effect changed after, job.run desk = (.done (.ok effect, changed), after) ∧
    Verdict w view idle changes subject desk effect changed after

/-- Three things decide how a dispatch ends. -/
theorem carriesOut_of {job : Job StoreError (Except StoreError Effect × σ)} {w : Workflow}
    {view : Subject} {idle : Prop} {changes : σ → Store → Prop} {subject : σ} {desk : Desk}
    (refuses : w.matchesSubject view = false →
      job.run desk = (.done (.ok .conditionsNotMet, subject), desk))
    (rests : w.matchesSubject view = true → idle →
      job.run desk = (.done (.ok .nothing, subject), desk))
    (applies : w.matchesSubject view = true → ¬idle → ∃ changed store,
      job.run desk = (.done (.ok .applied, changed), { desk with store }) ∧ changes changed store) :
    CarriesOut job w view idle changes subject desk := by
  cases matched : w.matchesSubject view with
  | false =>
      have unmet : ∃ c ∈ w.conditions, c.holds view = false := by
        simpa [Workflow.matchesSubject] using matched
      have notAll : ¬∀ c ∈ w.conditions, c.holds view = true := by
        rw [← Workflow.matchesSubject_iff, matched]
        exact Bool.false_ne_true
      refine ⟨_, _, _, refuses matched, ?_⟩
      constructor <;> simp [unmet, notAll]
  | true =>
      have met := Workflow.matchesSubject_iff.mp matched
      have noneFails : ¬∃ c ∈ w.conditions, c.holds view = false := by
        rintro ⟨c, member, fails⟩
        rw [met c member] at fails
        cases fails
      have all : (∀ c ∈ w.conditions, c.holds view = true) = True := eq_true met
      by_cases resting : idle
      · refine ⟨_, _, _, rests matched resting, ?_⟩
        constructor <;> simp [noneFails, all, resting]
      · obtain ⟨changed, store, run, made⟩ := applies matched resting
        refine ⟨_, _, _, run, ?_⟩
        constructor <;> simp [noneFails, all, resting, made]

theorem run_saved {subject : σ} {save : Job StoreError Unit} {desk : Desk} {store : Store}
    (saves : save.run desk = (.done (), { desk with store })) :
    (saved subject save).run desk = (.done (.ok .applied, subject), { desk with store }) := by
  rw [saved, run_bind, run_attempt, saves]
  rfl

/-- A dispatch that checks the conditions, looks whether there is a change to make, and
saves what it makes of its subject. -/
def saving {χ : Type} (w : Workflow) (view : Subject) (subject : σ) (choice : Option χ)
    (change : χ → σ) (save : σ → Job StoreError Unit) :
    Job StoreError (Except StoreError Effect × σ) :=
  if !w.matchesSubject view then return (.ok .conditionsNotMet, subject)
  else match choice with
    | none => return (.ok .nothing, subject)
    | some chosen => saved (change chosen) (save (change chosen))

theorem saving_carriesOut {χ : Type} {w : Workflow} {view : Subject} {idle : Prop}
    {changes : σ → Store → Prop} {subject : σ} {desk : Desk} {choice : Option χ} {change : χ → σ}
    {save : σ → Job StoreError Unit} (rests : choice = none ↔ idle)
    (saves : ∀ chosen, choice = some chosen → ∃ store,
      (save (change chosen)).run desk = (.done (), { desk with store }) ∧
        changes (change chosen) store) :
    CarriesOut (saving w view subject choice change save) w view idle changes subject desk := by
  unfold saving
  apply carriesOut_of
  · intro refused
    rw [refused]
    rfl
  · intro matched resting
    rw [matched, rests.mpr resting]
    rfl
  · intro matched working
    obtain ⟨chosen, isChosen⟩ := Option.ne_none_iff_exists'.mp (mt rests.mp working)
    obtain ⟨store, run, made⟩ := saves chosen isChosen
    rw [matched, isChosen]
    exact ⟨change chosen, store, run_saved run, made⟩

/-- Only the conditions of the workflow count, and what is made of the subject. -/
theorem saving_congr {χ : Type} {w w' : Workflow} {view : Subject} {subject : σ} {choice : Option χ}
    {change change' : χ → σ} {save : σ → Job StoreError Unit}
    (conditions : w'.conditions = w.conditions)
    (same : ∀ chosen, choice = some chosen → change' chosen = change chosen) :
    saving w' view subject choice change' save = saving w view subject choice change save := by
  unfold saving Workflow.matchesSubject
  rw [conditions]
  cases choice with
  | none => rfl
  | some chosen =>
      dsimp only
      rw [same chosen rfl]

end

variable {w : Workflow} {desk : Desk}

/-! ### Tickets -/

/-- What a work order and the store become: one field of the order has its new value, and
its row is written. -/
structure WorkOrderChanges (w : Workflow) (order : WorkOrder) (s : Store) (changed : WorkOrder)
    (s' : Store) : Prop where
  field : TicketAction.Changes w.action order.toTicket w.action.workOrderAction changed.toTicket
  number : changed.number = order.number
  row : ∃ rows, WritesRow order.id (.ofOrder changed) s.workOrders rows ∧
    s' = { s with workOrders := rows }

theorem workOrder_eq (w : Workflow) (order : WorkOrder) :
    workOrder w order = saving w (.workOrder order) order
      (w.action.workOrderAction.bind TicketAction.assignment?)
      (fun field => { order with toTicket := order.toTicket.assign field w.action })
      Desk.saveWorkOrder := by
  unfold workOrder saving
  cases w.action.workOrderAction.bind TicketAction.assignment? <;> rfl

theorem workOrder_carriesOut (serviceable : desk.Serviceable) (order : WorkOrder) :
    CarriesOut (workOrder w order) w (.workOrder order)
      (TicketAction.Idle w.action.workOrderAction) (WorkOrderChanges w order desk.store) order
      desk := by
  rw [workOrder_eq]
  apply saving_carriesOut TicketAction.assignment?_eq_none_iff
  intro field assigned
  have written := Store.saveWorkOrder_eq (serviceable.store.intact.require _)
    { order with toTicket := order.toTicket.assign field w.action }
  refine ⟨_, run_write_of_ok serviceable.working written, ?_⟩
  rw [id_assign]
  exact {
    field := TicketAction.changes_assign assigned order.toTicket
    number := rfl
    row := ⟨_, writesRow_saveRow serviceable.store.workOrderIds, rfl⟩ }

theorem workOrder_congr {w' : Workflow} (conditions : w'.conditions = w.conditions)
    (selected : w'.action.workOrderAction = w.action.workOrderAction)
    (agree : TicketAction.AgreeOn w'.action w.action w.action.workOrderAction) (order : WorkOrder) :
    workOrder w' order = workOrder w order := by
  rw [workOrder_eq, workOrder_eq, selected]
  apply saving_congr conditions
  intro field assigned
  rw [TicketAction.assign_congr assigned agree]

/-- What a request and the store become: one field of the request has its new value, and
its row is written. -/
structure RequestChanges (w : Workflow) (subject : Request) (s : Store) (changed : Request)
    (s' : Store) : Prop where
  field : TicketAction.Changes w.action subject.toTicket w.action.requestAction changed.toTicket
  row : ∃ rows, WritesRow subject.id (.ofTicket changed.toTicket) s.requests rows ∧
    s' = { s with requests := rows }

theorem request_eq (w : Workflow) (subject : Request) :
    request w subject = saving w (.request subject) subject
      (w.action.requestAction.bind TicketAction.assignment?)
      (fun field => ⟨subject.toTicket.assign field w.action⟩) Desk.saveRequest := by
  unfold request saving
  cases w.action.requestAction.bind TicketAction.assignment? <;> rfl

theorem request_carriesOut (serviceable : desk.Serviceable) (subject : Request) :
    CarriesOut (request w subject) w (.request subject)
      (TicketAction.Idle w.action.requestAction) (RequestChanges w subject desk.store) subject
      desk := by
  rw [request_eq]
  apply saving_carriesOut TicketAction.assignment?_eq_none_iff
  intro field assigned
  have written := Store.saveRequest_eq (serviceable.store.intact.require _)
    ⟨subject.toTicket.assign field w.action⟩
  refine ⟨_, run_write_of_ok serviceable.working written, ?_⟩
  rw [id_assign]
  exact {
    field := TicketAction.changes_assign assigned subject.toTicket
    row := ⟨_, writesRow_saveRow serviceable.store.requestIds, rfl⟩ }

theorem request_congr {w' : Workflow} (conditions : w'.conditions = w.conditions)
    (selected : w'.action.requestAction = w.action.requestAction)
    (agree : TicketAction.AgreeOn w'.action w.action w.action.requestAction) (subject : Request) :
    request w' subject = request w subject := by
  rw [request_eq, request_eq, selected]
  apply saving_congr conditions
  intro field assigned
  rw [TicketAction.assign_congr assigned agree]

/-! ### Purchase orders -/

/-- What a purchase order and the store become: one field of the order has its new value,
and its row is written. -/
structure PurchaseOrderChanges (w : Workflow) (order : PurchaseOrder) (s : Store)
    (changed : PurchaseOrder) (s' : Store) : Prop where
  field : PurchaseOrderAction.Changes w.action order w.action.purchaseOrderAction changed
  row : ∃ rows, WritesRow order.id (.ofOrder changed) s.purchaseOrders rows ∧
    s' = { s with purchaseOrders := rows }

theorem purchaseOrder_eq (w : Workflow) (order : PurchaseOrder) :
    purchaseOrder w order = saving w (.purchaseOrder order) order
      (w.action.purchaseOrderAction.bind fun selected => order.apply selected w.action) id
      Desk.savePurchaseOrder := by
  unfold purchaseOrder saving
  cases w.action.purchaseOrderAction.bind fun selected => order.apply selected w.action <;> rfl

theorem purchaseOrder_carriesOut (serviceable : desk.Serviceable) (order : PurchaseOrder) :
    CarriesOut (purchaseOrder w order) w (.purchaseOrder order)
      (PurchaseOrderAction.Idle w.action.purchaseOrderAction)
      (PurchaseOrderChanges w order desk.store) order desk := by
  rw [purchaseOrder_eq]
  apply saving_carriesOut PurchaseOrderAction.apply_eq_none_iff
  intro changed applied
  have changes := PurchaseOrderAction.changes_apply applied
  have written := Store.savePurchaseOrder_eq (serviceable.store.intact.require _) changed
  refine ⟨_, run_write_of_ok serviceable.working written, changes, ?_⟩
  rw [changes.id]
  exact ⟨_, writesRow_saveRow serviceable.store.purchaseOrderIds, rfl⟩

theorem purchaseOrder_congr {w' : Workflow} (conditions : w'.conditions = w.conditions)
    (selected : w'.action.purchaseOrderAction = w.action.purchaseOrderAction)
    (agree : PurchaseOrderAction.AgreeOn w'.action w.action w.action.purchaseOrderAction)
    (order : PurchaseOrder) : purchaseOrder w' order = purchaseOrder w order := by
  rw [purchaseOrder_eq, purchaseOrder_eq, selected, PurchaseOrderAction.apply_congr agree]
  exact saving_congr conditions fun _ _ => rfl

/-! ### Parts -/

theorem part_carriesOut (subject : Part) (desk : Desk) :
    CarriesOut (Engine.unchanged subject (part w subject)) w (.part subject) True
      (fun _ _ => False) subject desk := by
  apply carriesOut_of
  · intro refused
    rw [part, refused]
    rfl
  · intro matched _
    rw [part, matched]
    rfl
  · intro _ working
    exact absurd trivial working

theorem part_congr {w' : Workflow} (conditions : w'.conditions = w.conditions) (subject : Part) :
    part w' subject = part w subject := by
  unfold part Workflow.matchesSubject
  rw [conditions]

/-! ### Tasks -/

theorem run_unchanged {σ : Type} {subject : σ} {job : Job StoreError Effect} {effect : Effect}
    {after : Desk} (done : job.run desk = (.done effect, after)) :
    (Engine.unchanged subject job).run desk = (.done (.ok effect, subject), after) := by
  rw [Engine.unchanged, run_bind, run_attempt, done]
  rfl

theorem run_findAsset (working : desk.outages = []) {id : Uuid} {found : Option Asset}
    (answer : desk.store.findAsset id = .ok found) :
    (Desk.findAsset id).run desk = (.done found, desk) := by
  rw [Desk.findAsset, run_through (by simp [working]), run_read, answer]

theorem task_rests (serviceable : desk.Serviceable) {subject : Task}
    (matched : w.matchesSubject (.task subject) = true)
    (resting : TaskAction.Idle w.action subject desk.store) :
    (task w subject).run desk = (.done .nothing, desk) := by
  rw [task, matched, Bool.not_true, if_neg Bool.false_ne_true]
  split
  · -- All three are there, so that only the asset can be missing.
    rename_i id status selected named given
    rcases resting with other | noAsset | noStatus | ⟨unknownId, named', unknown⟩
    · exact absurd selected other
    · rw [named] at noAsset
      cases noAsset
    · rw [given] at noStatus
      cases noStatus
    · rw [named] at named'
      cases named'
      rw [run_bind, run_findAsset serviceable.working
        (Store.findAsset_of_unknown serviceable.store.intact unknown)]
      rfl
  · rfl

/-- An action that is not idle finds the asset of the task and saves it with the status. -/
theorem task_applies (serviceable : desk.Serviceable) {subject : Task}
    (matched : w.matchesSubject (.task subject) = true)
    (working : ¬TaskAction.Idle w.action subject desk.store) :
    ∃ store, (task w subject).run desk = (.done .applied, { desk with store }) ∧
      TaskAction.Changes w.action subject desk.store store := by
  have intact := serviceable.store.intact
  simp only [TaskAction.Idle, not_or, not_not, not_exists, not_and, not_forall] at working
  obtain ⟨selected, named, given, known⟩ := working
  obtain ⟨id, named⟩ := Option.ne_none_iff_exists'.mp named
  obtain ⟨status, given⟩ := Option.ne_none_iff_exists'.mp given
  obtain ⟨old, member, sameId⟩ := known id named
  obtain ⟨asset, reads⟩ := serviceable.store.assets old member
  obtain ⟨before, after, table⟩ := List.append_of_mem member
  have others := others_of_nodup sameId (table ▸ serviceable.store.assetIds)
  -- Both the look-up before and the one after the save go by the table around this row.
  have found := Store.findAsset_around intact table sameId others reads
  obtain rfl : asset.id = id := (Store.known_of_findAsset found).1
  have written := Store.saveAsset_eq (intact.require _) { asset with status }
  have row : WritesRow asset.id (.ofAsset { asset with status }) desk.store.assets
      (saveRow asset.id (.ofAsset { asset with status }) desk.store.assets) :=
    writesRow_saveRow serviceable.store.assetIds
  refine ⟨_, ?_, .status selected named given found row ?_⟩
  · rw [task, matched, selected, named, given, Bool.not_true, if_neg Bool.false_ne_true]
    dsimp only
    rw [run_bind, run_findAsset serviceable.working found]
    dsimp only
    rw [run_bind, Desk.saveAsset, run_write_of_ok serviceable.working written]
    rfl
  · have later : saveRow asset.id (.ofAsset { asset with status }) desk.store.assets =
        before ++ old.merge (.ofAsset { asset with status }) :: after := by
      rw [table]
      exact saveRow_around sameId others
    exact Store.findAsset_around (intact.withAssets _) later
      ((AssetRow.id_merge old _).trans sameId) others (AssetRow.asset_merge_status reads status)

theorem task_carriesOut (serviceable : desk.Serviceable) (subject : Task) :
    CarriesOut (Engine.unchanged subject (task w subject)) w (.task subject)
      (TaskAction.Idle w.action subject desk.store)
      (fun changed s' => changed = subject ∧ TaskAction.Changes w.action subject desk.store s')
      subject desk := by
  apply carriesOut_of
  · intro refused
    rw [task, refused]
    rfl
  · intro matched resting
    exact run_unchanged (task_rests serviceable matched resting)
  · intro matched working
    obtain ⟨store, run, changes⟩ := task_applies serviceable matched working
    exact ⟨subject, store, run_unchanged run, rfl, changes⟩

theorem task_congr {w' : Workflow} (conditions : w'.conditions = w.conditions)
    (selected : w'.action.taskAction = w.action.taskAction)
    (agree : TaskAction.AgreeOn w'.action w.action w.action.taskAction) (subject : Task) :
    task w' subject = task w subject := by
  unfold task Workflow.matchesSubject
  rw [conditions, selected]
  cases kind : w.action.taskAction with
  | none => rfl
  | some kind' =>
      cases kind' with
      | setAssetStatus =>
          rw [kind, TaskAction.AgreeOn] at agree
          rw [agree]
      | _ => rfl

/-! ### All kinds of subjects -/

/-- At a desk the dispatches of a workflow make the selected change, and nothing but the
conditions, the selector for the kind of subject and the value that this selector looks for
has an influence on them. -/
structure Selective (w : Workflow) (desk : Desk) : Prop where
  workOrder : ∀ order, CarriesOut (workOrder w order) w (.workOrder order)
    (TicketAction.Idle w.action.workOrderAction) (WorkOrderChanges w order desk.store) order desk
  request : ∀ subject, CarriesOut (request w subject) w (.request subject)
    (TicketAction.Idle w.action.requestAction) (RequestChanges w subject desk.store) subject desk
  purchaseOrder : ∀ order, CarriesOut (purchaseOrder w order) w (.purchaseOrder order)
    (PurchaseOrderAction.Idle w.action.purchaseOrderAction)
    (PurchaseOrderChanges w order desk.store) order desk
  part : ∀ subject, CarriesOut (Engine.unchanged subject (part w subject)) w (.part subject) True
    (fun _ _ => False) subject desk
  task : ∀ subject, CarriesOut (Engine.unchanged subject (task w subject)) w (.task subject)
    (TaskAction.Idle w.action subject desk.store)
    (fun changed s' => changed = subject ∧ TaskAction.Changes w.action subject desk.store s')
    subject desk
  workOrder_alike : ∀ w' : Workflow, w'.conditions = w.conditions →
    w'.action.workOrderAction = w.action.workOrderAction →
    TicketAction.AgreeOn w'.action w.action w.action.workOrderAction →
    ∀ order, Dispatch.workOrder w' order = Dispatch.workOrder w order
  request_alike : ∀ w' : Workflow, w'.conditions = w.conditions →
    w'.action.requestAction = w.action.requestAction →
    TicketAction.AgreeOn w'.action w.action w.action.requestAction →
    ∀ subject, Dispatch.request w' subject = Dispatch.request w subject
  purchaseOrder_alike : ∀ w' : Workflow, w'.conditions = w.conditions →
    w'.action.purchaseOrderAction = w.action.purchaseOrderAction →
    PurchaseOrderAction.AgreeOn w'.action w.action w.action.purchaseOrderAction →
    ∀ order, Dispatch.purchaseOrder w' order = Dispatch.purchaseOrder w order
  part_alike : ∀ w' : Workflow, w'.conditions = w.conditions →
    ∀ subject, Dispatch.part w' subject = Dispatch.part w subject
  task_alike : ∀ w' : Workflow, w'.conditions = w.conditions →
    w'.action.taskAction = w.action.taskAction →
    TaskAction.AgreeOn w'.action w.action w.action.taskAction →
    ∀ subject, Dispatch.task w' subject = Dispatch.task w subject

/-- Whatever the workflow and whatever its subject, a dispatch at a desk in order makes
exactly the selected change. -/
theorem selective (w : Workflow) (serviceable : desk.Serviceable) : Selective w desk where
  workOrder := workOrder_carriesOut serviceable
  request := request_carriesOut serviceable
  purchaseOrder := purchaseOrder_carriesOut serviceable
  part subject := part_carriesOut subject desk
  task := task_carriesOut serviceable
  workOrder_alike _ := workOrder_congr
  request_alike _ := request_congr
  purchaseOrder_alike _ := purchaseOrder_congr
  part_alike _ := part_congr
  task_alike _ := task_congr

/-- A workflow that takes the asset of every task out of service. -/
def outOfService : Workflow where
  id := Uuid.ofNat 9
  companyId := Uuid.ofNat 8
  title := "Out of service"
  trigger := .task
  conditions := []
  action := { Action.empty with taskAction := some .setAssetStatus, assetStatus := some .down }
  enabled := true
  createdAt := Desk.newYear 2026 Desk.isDate_newYear2026
  updatedAt := Desk.newYear 2026 Desk.isDate_newYear2026

/-- A desk with one asset in its store. -/
def stocked : Desk :=
  { Desk.blank (Desk.newYear 2026 Desk.isDate_newYear2026) with
    store := { Store.empty with assets := [.ofAsset InternalEvent.lentAsset] } }

theorem stocked_serviceable : stocked.Serviceable where
  working := rfl
  store := {
    intact := rfl
    workOrderIds := List.nodup_nil
    requestIds := List.nodup_nil
    purchaseOrderIds := List.nodup_nil
    assetIds := List.nodup_singleton _
    assets := by
      intro row member
      rw [List.mem_singleton.mp member]
      have legible : AllLegible InternalEvent.lentAsset.instants :=
        allLegible_cons.mpr ⟨by decide, allLegible_nil⟩
      exact ⟨_, AssetRow.asset_ofAsset_eq_ok_iff.mpr ⟨legible, rfl⟩⟩ }

/-- The task takes the asset out of service, and that is all. -/
theorem selective_outOfService :
    stocked.Serviceable ∧ Selective outOfService stocked ∧
      ((task outOfService InternalEvent.borrowingTask).run stocked).2.store.assets =
        [.ofAsset { InternalEvent.lentAsset with status := .down }] :=
  ⟨stocked_serviceable, selective outOfService stocked_serviceable, by decide +kernel⟩

end Dispatch

end Caretaker
