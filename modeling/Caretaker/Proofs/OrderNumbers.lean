import Caretaker.Proofs.Gates
import Caretaker.Proofs.Numbering

/-!
# Numbers of work orders

Numbers are given out to whoever asks for one, and to the work orders that workflows open
for alerts.  In whatever order these and all other pieces of work follow each other, and
whatever channels are out of order meanwhile, the numbers of each company count up from one
without a gap and without regard to other companies.  So no number is given out twice, and
the work orders of a company that alerts opened all have different numbers.
-/

namespace Caretaker

open Job

/-! ## Taking a number -/

/-- The number in an answer to a company. -/
def answered (company : Uuid) : Outcome StoreError String → List Allotment
  | .done number => [⟨company, number⟩]
  | .failed _ | .stalled => []

theorem answered_of_unfinished (company : Uuid) {outcome : Outcome StoreError String}
    (unfinished : isDone outcome = false) : answered company outcome = [] := by
  cases outcome with
  | done number => cases unfinished
  | failed error => rfl
  | stalled => rfl

namespace Desk

theorem nextOrderNumber_takes (company : Uuid) (desk : Desk) :
    Takes desk.store ((nextOrderNumber company).run desk).2.store
      (answered company ((nextOrderNumber company).run desk).1) := by
  rcases Dispatch.nextOrderNumber_cases company desk with
    ⟨next, counted, number, moved, content, run⟩ | ⟨next, counted, moved, noNumber, breaks⟩ | breaks
  · obtain ⟨n, rfl, rfl⟩ := Store.readCounter_eq_ok_iff.mp content
    rw [run]
    exact .number moved rfl
  · rw [answered_of_unfinished company breaks.unfinished, breaks.leaves]
    exact .inVain moved noNumber rfl
  · rw [answered_of_unfinished company breaks.unfinished, breaks.leaves]
    exact .nothing rfl

/-- A channel in order answers with the next number, as long as there is one. -/
theorem run_nextOrderNumber {company : Uuid} {desk : Desk} {n : Nat} (intact : desk.store.Intact)
    (stands : StandsAt n (desk.store.countersOf company.text))
    (working : desk.outages.lookup .nextOrderNumber = none) (fits : n + 1 < 9223372036854775808) :
    ((nextOrderNumber company).run desk).1 = .done (numberText (n + 1)) := by
  rcases stands.nextCount with ⟨-, number⟩ | ⟨last, -⟩
  · rw [nextOrderNumber, run_through working, run_bind, run_change,
      Store.advanceCounter_eq intact, number]
    dsimp only
    rw [run_read, Store.readCounter, orderNumber_natCast]
  · omega

/-- The work orders of a desk. -/
def orders (desk : Desk) : List WorkOrderRow :=
  desk.store.workOrders

theorem nextOrderNumber_preserves_orders (company : Uuid) :
    Preserves orders (nextOrderNumber company) := by
  apply Preserves.through
  apply Preserves.bind
  · apply Preserves.change
    intro desk next counted moved
    rw [orders, (Store.advanceCounter_eq_of_ok moved).2]
    rfl
  · intro next desk
    rw [run_read]
    cases Store.readCounter next <;> rfl

end Desk

/-! ## New work orders -/

/-- The work orders of a store that were not there before. -/
def Store.newOrders (before after : Store) : List WorkOrderRow :=
  after.workOrders.filter fun row => !before.workOrders.any fun old => old.id == row.id

/-- Company and number of a work order. -/
def WorkOrderRow.label (row : WorkOrderRow) : String × Option String :=
  (row.companyId, row.customId)

/-- Company and number of a work order that has the number. -/
def Allotment.label (allotment : Allotment) : String × Option String :=
  (allotment.company.text, some allotment.number)

theorem Allotment.label_injective : Function.Injective label := by
  rintro ⟨company, number⟩ ⟨other, further⟩ same
  simpa [label, Uuid.text_inj] using same

namespace Store

variable {before after : Store}

/-- Rows that were there before, or have taken the place of one, are not new. -/
theorem filter_new_eq_nil {rows : List WorkOrderRow}
    (known : ∀ row ∈ rows, ∃ old ∈ before.workOrders, old.id = row.id) :
    (rows.filter fun row => !before.workOrders.any fun old => old.id == row.id) = [] := by
  rw [List.filter_eq_nil_iff]
  intro row member
  obtain ⟨old, memberOld, same⟩ := known row member
  rw [Bool.not_eq_true, Bool.not_eq_false', List.any_eq_true]
  exact ⟨old, memberOld, beq_iff_eq.mpr same⟩

theorem newOrders_of_same (same : after.workOrders = before.workOrders) :
    newOrders before after = [] :=
  filter_new_eq_nil fun row member => ⟨row, same ▸ member, rfl⟩

/-- Saving a work order adds it, unless it was there. -/
theorem newOrders_of_saved {order : WorkOrder} (saved : before.saveWorkOrder order = .ok after) :
    newOrders before after = [] ∨ newOrders before after = [.ofOrder order] := by
  rw [eq_of_saveWorkOrder saved, newOrders]
  dsimp only
  rw [saveRow, upsert]
  split
  · left
    apply filter_new_eq_nil
    intro row member
    obtain ⟨old, memberOld, isMerged⟩ := List.mem_map.mp member
    refine ⟨old, memberOld, ?_⟩
    rw [← isMerged]
    split
    · exact (congrArg Stamp.id (Stamped.stamp_merge old _)).symm
    · rfl
  · rw [List.filter_append, filter_new_eq_nil fun row member => ⟨row, member, rfl⟩, List.nil_append,
      List.filter_singleton]
    cases !before.workOrders.any fun old => old.id == (WorkOrderRow.ofOrder order).id with
    | false => exact .inl rfl
    | true => exact .inr rfl

end Store

theorem Desk.newOrders_saveWorkOrder (order : WorkOrder) (desk : Desk) :
    desk.store.newOrders ((saveWorkOrder order).run desk).2.store = [] ∨
      desk.store.newOrders ((saveWorkOrder order).run desk).2.store = [.ofOrder order] := by
  rcases write_cases .saveWorkOrder (fun s => s.saveWorkOrder order) desk with
    ⟨after, saved, run⟩ | breaks
  · rw [saveWorkOrder, run]
    exact Store.newOrders_of_saved saved
  · rw [saveWorkOrder, breaks.leaves]
    exact .inl (Store.newOrders_of_same rfl)

/-! ## Alerts -/

namespace Dispatch

/-- What running a workflow on an alert gives out: a number, if the workflow opens a work
order. -/
def given (w : Workflow) (subject : Alert) (desk : Desk) : List Allotment :=
  if w.matchesSubject (.alert subject) = true ∧ w.action.taskAction = some .createWorkOrder then
    answered w.companyId ((Desk.nextOrderNumber w.companyId).run (opened desk)).1
  else []

variable {w : Workflow} {subject : Alert} {desk : Desk}

/-- A workflow that opens a work order takes a number and saves the order with it. -/
theorem run_alert_of_order (met : w.matchesSubject (.alert subject) = true)
    (selected : w.action.taskAction = some .createWorkOrder) :
    (alert w subject).run desk =
      (Desk.nextOrderNumber w.companyId >>= fun number =>
        Desk.saveWorkOrder { nextTicket w subject desk with number := some number } >>= fun _ =>
          (pure .applied : Job StoreError Effect)).run (opened desk) := by
  rw [alert, met, Bool.not_true, if_neg Bool.false_ne_true, selected]
  rfl

/-- A workflow that opens no work order leaves the counters and the work orders alone. -/
theorem alert_spares (noOrder : ¬(w.matchesSubject (.alert subject) = true ∧
      w.action.taskAction = some .createWorkOrder)) :
    Preserves (fun desk => (desk.tally, desk.orders)) (alert w subject) := by
  unfold alert
  split
  · exact Preserves.pure _
  · rename_i met
    split
    · rename_i selected
      exact absurd ⟨by simpa using met, selected⟩ noOrder
    · apply Preserves.bind (fun _ => rfl)
      intro ticket
      refine Preserves.bind (Preserves.through (Preserves.write ?_)) fun _ => Preserves.pure _
      intro desk store saved
      rw [Store.eq_of_saveRequest saved]
      rfl
    · exact Preserves.pure _
    · exact Preserves.pure _

theorem alert_takes (w : Workflow) (subject : Alert) (desk : Desk) :
    Takes desk.store ((alert w subject).run desk).2.store (given w subject desk) := by
  unfold given
  split
  · rename_i order
    have takes := Desk.nextOrderNumber_takes w.companyId (opened desk)
    have saves (number : String) : Preserves Desk.tally
        (Desk.saveWorkOrder { nextTicket w subject desk with number := some number } >>= fun _ =>
          (pure .applied : Job StoreError Effect)) :=
      Preserves.bind (Desk.saveWorkOrder_uncounted _) fun _ => Preserves.pure _
    apply takes.congr
    rw [run_alert_of_order order.1 order.2]
    exact Preserves.left_bind saves (opened desk)
  · rename_i noOrder
    exact .nothing (congrArg Prod.fst (alert_spares noOrder desk))

/-- A work order that is new after an alert has the number that was given out. -/
theorem alert_labels (w : Workflow) (subject : Alert) (desk : Desk) :
    ((Store.newOrders desk.store ((alert w subject).run desk).2.store).map
      WorkOrderRow.label).Sublist ((given w subject desk).map Allotment.label) := by
  unfold given
  split
  · rename_i order
    have untouched : ((Desk.nextOrderNumber w.companyId).run (opened desk)).2.store.workOrders =
        desk.store.workOrders :=
      Desk.nextOrderNumber_preserves_orders w.companyId (opened desk)
    rw [run_alert_of_order order.1 order.2, run_bind]
    rcases ended : (Desk.nextOrderNumber w.companyId).run (opened desk) with
      ⟨number | error | _, middle⟩ <;> rw [ended] at untouched <;> dsimp only at untouched ⊢
    · have before (after : Store) : desk.store.newOrders after = middle.store.newOrders after := by
        rw [Store.newOrders, Store.newOrders, untouched]
      rw [run_bind_pure, before]
      rcases Desk.newOrders_saveWorkOrder
        { nextTicket w subject desk with number := some number } middle with none | one
      · rw [none]
        exact List.nil_sublist _
      · rw [one]
        exact List.Sublist.refl _
    · rw [Store.newOrders_of_same untouched]
      exact List.nil_sublist _
    · rw [Store.newOrders_of_same untouched]
      exact List.nil_sublist _
  · rename_i noOrder
    rw [Store.newOrders_of_same (congrArg Prod.snd (alert_spares noOrder desk))]
    exact List.nil_sublist _

end Dispatch

namespace Gateway

/-- The workflow that a call of monitoring runs, on which alert, and the desk where it does. -/
def runs (apiKey : Option String) (payload : List UInt8) (desk : Desk) :
    Option (Workflow × Alert × Desk) :=
  match (letIn apiKey payload).run desk with
  | (.done (config, alert), later) =>
      match ((Engine.select config.companyId .webhook (.alert alert)).run later).1 with
      | .done (some w) => some (w, alert, later)
      | .done none | .failed _ | .stalled => none
  | (.failed _, _) | (.stalled, _) => none

/-- A call leaves the store that running the workflow leaves. -/
theorem store_execute (timeout : Nat) (company : Uuid) (w : Workflow) (alert : Alert) (desk : Desk) :
    ((execute timeout company w alert).run desk).2.store =
      ((Dispatch.alert w alert).run desk).2.store := by
  rcases ended : (Dispatch.alert w alert).run desk with ⟨effect | error | _, left⟩
  · rw [run_execute_of_done company alert timeout ended]
  · exact (execute_givenUp company alert timeout ended rfl).store
  · exact (execute_givenUp company alert timeout ended rfl).store

/-- A call runs a workflow and does nothing else to the store, or does nothing to it. -/
theorem handle_cases (timeout : Nat) (apiKey : Option String) (payload : List UInt8) (desk : Desk) :
    (∃ w alert later, runs apiKey payload desk = some (w, alert, later) ∧
      later.store = desk.store ∧
      ((handle timeout apiKey payload).run desk).2.store =
        ((Dispatch.alert w alert).run later).2.store) ∨
    (runs apiKey payload desk = none ∧
      ((handle timeout apiKey payload).run desk).2.store = desk.store) := by
  obtain ⟨source, limiter, leaves⟩ := letIn_leaves apiKey payload desk
  rw [handle_eq, run_bind, runs]
  rcases entered : (letIn apiKey payload).run desk with ⟨⟨config, alert⟩ | error | _, later⟩ <;>
    rw [entered] at leaves <;> dsimp only at leaves ⊢
  · have sameStore : later.store = desk.store := by rw [leaves]
    have looks : (Engine.select config.companyId .webhook (.alert alert)).Looks :=
      Looks.bind (Looks.read _ _) fun _ => Looks.pure _
    have stays := looks later
    rw [run_bind, run_mapError]
    rcases selects : (Engine.select config.companyId .webhook (.alert alert)).run later with
      ⟨(_ | w) | error | _, chosen⟩ <;> rw [selects] at stays <;> dsimp only at stays ⊢ <;>
      subst stays
    · exact .inr ⟨rfl, sameStore⟩
    · exact .inl ⟨w, alert, chosen, rfl, sameStore, store_execute _ _ _ _ _⟩
    · exact .inr ⟨rfl, sameStore⟩
    · exact .inr ⟨rfl, sameStore⟩
  · exact .inr ⟨rfl, by rw [leaves]⟩
  · exact .inr ⟨rfl, by rw [leaves]⟩

/-- What a call of monitoring gives out. -/
def given (apiKey : Option String) (payload : List UInt8) (desk : Desk) : List Allotment :=
  match runs apiKey payload desk with
  | some (w, alert, later) => Dispatch.given w alert later
  | none => []

theorem handle_takes (timeout : Nat) (apiKey : Option String) (payload : List UInt8) (desk : Desk) :
    Takes desk.store ((handle timeout apiKey payload).run desk).2.store
      (given apiKey payload desk) := by
  rw [given]
  rcases handle_cases timeout apiKey payload desk with
    ⟨w, alert, later, isRun, sameStore, left⟩ | ⟨noRun, left⟩
  · rw [isRun, left, ← sameStore]
    exact Dispatch.alert_takes w alert later
  · rw [noRun, left]
    exact .nothing rfl

theorem handle_labels (timeout : Nat) (apiKey : Option String) (payload : List UInt8)
    (desk : Desk) :
    ((desk.store.newOrders ((handle timeout apiKey payload).run desk).2.store).map
      WorkOrderRow.label).Sublist ((given apiKey payload desk).map Allotment.label) := by
  rw [given]
  rcases handle_cases timeout apiKey payload desk with
    ⟨w, alert, later, isRun, sameStore, left⟩ | ⟨noRun, left⟩
  · rw [isRun, left, ← sameStore]
    exact Dispatch.alert_labels w alert later
  · rw [left, Store.newOrders_of_same rfl]
    exact List.nil_sublist _

end Gateway

/-! ## Turns -/

/-- An access to the store on its own. -/
inductive Access where
  | createWorkflow (w : Workflow)
  | findWorkflow (id : Uuid)
  | listWorkflows (company : Uuid)
  | matchWorkflows (company : Uuid) (trigger : Trigger)
  | setWorkflowsEnabled (ids : List Uuid) (enabled : Bool)
  | deleteWorkflow (id : Uuid)
  | saveWorkOrder (order : WorkOrder)
  | saveRequest (request : Request)
  | savePurchaseOrder (order : PurchaseOrder)
  | saveAsset (asset : Asset)
  | findAsset (id : Uuid)
  | findWorkOrder (id : Uuid)
  | listWorkOrders (company : Uuid)
  | listRequests (company : Uuid)
  | nextOrderNumber (company : Uuid)
  | createConfig (config : WebhookConfig)
  | findConfigOf (company : Uuid)
  | findConfigByKey (apiKey : String)
  | updateConfig (config : WebhookConfig)
  | deleteConfigOf (company : Uuid)
  | createCompany (company : Company)
  | findCompany (id : Uuid)
  | createUser (user : User)
  | findAdmins (company : Uuid)

namespace Access

/-- The desk after the access, however it ended. -/
def after : Access → Desk → Desk
  | .createWorkflow w, desk => ((Desk.createWorkflow w).run desk).2
  | .findWorkflow id, desk => ((Desk.findWorkflow id).run desk).2
  | .listWorkflows company, desk => ((Desk.listWorkflows company).run desk).2
  | .matchWorkflows company trigger, desk => ((Desk.matchWorkflows company trigger).run desk).2
  | .setWorkflowsEnabled ids enabled, desk => ((Desk.setWorkflowsEnabled ids enabled).run desk).2
  | .deleteWorkflow id, desk => ((Desk.deleteWorkflow id).run desk).2
  | .saveWorkOrder order, desk => ((Desk.saveWorkOrder order).run desk).2
  | .saveRequest request, desk => ((Desk.saveRequest request).run desk).2
  | .savePurchaseOrder order, desk => ((Desk.savePurchaseOrder order).run desk).2
  | .saveAsset asset, desk => ((Desk.saveAsset asset).run desk).2
  | .findAsset id, desk => ((Desk.findAsset id).run desk).2
  | .findWorkOrder id, desk => ((Desk.findWorkOrder id).run desk).2
  | .listWorkOrders company, desk => ((Desk.listWorkOrders company).run desk).2
  | .listRequests company, desk => ((Desk.listRequests company).run desk).2
  | .nextOrderNumber company, desk => ((Desk.nextOrderNumber company).run desk).2
  | .createConfig config, desk => ((Desk.createConfig config).run desk).2
  | .findConfigOf company, desk => ((Desk.findConfigOf company).run desk).2
  | .findConfigByKey apiKey, desk => ((Desk.findConfigByKey apiKey).run desk).2
  | .updateConfig config, desk => ((Desk.updateConfig config).run desk).2
  | .deleteConfigOf company, desk => ((Desk.deleteConfigOf company).run desk).2
  | .createCompany company, desk => ((Desk.createCompany company).run desk).2
  | .findCompany id, desk => ((Desk.findCompany id).run desk).2
  | .createUser user, desk => ((Desk.createUser user).run desk).2
  | .findAdmins company, desk => ((Desk.findAdmins company).run desk).2

/-- What the access gives out: the number that was asked for. -/
def given : Access → Desk → List Allotment
  | .nextOrderNumber company, desk =>
      answered company ((Desk.nextOrderNumber company).run desk).1
  | _, _ => []

/-- A read gives nothing out and leaves the counters alone. -/
theorem takes_of_read {α : Type} (channel : Channel) (f : Store → Except StoreError α) (desk : Desk) :
    Takes desk.store ((through channel (read f)).run desk).2.store [] :=
  .nothing (congrArg Desk.tally (Looks.read channel f desk))

theorem takes (access : Access) (desk : Desk) :
    Takes desk.store (access.after desk).store (access.given desk) := by
  cases access with
  | createWorkflow w => exact .nothing (Desk.createWorkflow_uncounted w desk)
  | findWorkflow id => exact takes_of_read _ _ desk
  | listWorkflows company => exact takes_of_read _ _ desk
  | matchWorkflows company trigger => exact takes_of_read _ _ desk
  | setWorkflowsEnabled ids enabled =>
      exact .nothing (Desk.setWorkflowsEnabled_uncounted ids enabled desk)
  | deleteWorkflow id => exact .nothing (Desk.deleteWorkflow_uncounted id desk)
  | saveWorkOrder order => exact .nothing (Desk.saveWorkOrder_uncounted order desk)
  | saveRequest request => exact .nothing (Desk.saveRequest_uncounted request desk)
  | savePurchaseOrder order => exact .nothing (Desk.savePurchaseOrder_uncounted order desk)
  | saveAsset asset => exact .nothing (Desk.saveAsset_uncounted asset desk)
  | findAsset id => exact takes_of_read _ _ desk
  | findWorkOrder id => exact takes_of_read _ _ desk
  | listWorkOrders company => exact takes_of_read _ _ desk
  | listRequests company => exact takes_of_read _ _ desk
  | nextOrderNumber company => exact Desk.nextOrderNumber_takes company desk
  | createConfig config => exact .nothing (Desk.createConfig_uncounted config desk)
  | findConfigOf company => exact takes_of_read _ _ desk
  | findConfigByKey apiKey => exact takes_of_read _ _ desk
  | updateConfig config => exact .nothing (Desk.updateConfig_uncounted config desk)
  | deleteConfigOf company => exact .nothing (Desk.deleteConfigOf_uncounted company desk)
  | createCompany company => exact .nothing (Desk.createCompany_uncounted company desk)
  | findCompany id => exact takes_of_read _ _ desk
  | createUser user => exact .nothing (Desk.createUser_uncounted user desk)
  | findAdmins company => exact takes_of_read _ _ desk

end Access

/-- A piece of work at a desk: an access to the store, a dispatch of a workflow that need not
be stored, or an operation of the service.  Between them channels fail and recover. -/
inductive Turn where
  | access (work : Access)
  | dispatch (w : Workflow) (subject : Subject)
  | operation (work : Operation)
  | outages (now : List (Channel × Outage))

namespace Turn

/-- The desk after the turn. -/
def after : Turn → Desk → Desk
  | .access work, desk => work.after desk
  | .dispatch w (.workOrder order), desk => ((Dispatch.workOrder w order).run desk).2
  | .dispatch w (.request request), desk => ((Dispatch.request w request).run desk).2
  | .dispatch w (.purchaseOrder order), desk => ((Dispatch.purchaseOrder w order).run desk).2
  | .dispatch w (.part part), desk => ((Dispatch.part w part).run desk).2
  | .dispatch w (.task task), desk => ((Dispatch.task w task).run desk).2
  | .dispatch w (.alert alert), desk => ((Dispatch.alert w alert).run desk).2
  | .operation work, desk => work.after desk
  | .outages now, desk => { desk with outages := now }

/-- The numbers that are given out in the turn. -/
def given : Turn → Desk → List Allotment
  | .access work, desk => work.given desk
  | .dispatch w (.alert alert), desk => Dispatch.given w alert desk
  | .operation (.alertReceived _ apiKey payload), desk => Gateway.given apiKey payload desk
  | _, _ => []

/-- The work orders that an alert opens in the turn. -/
def opened : Turn → Desk → List WorkOrderRow
  | .dispatch w (.alert alert), desk =>
      desk.store.newOrders ((Turn.dispatch w (.alert alert)).after desk).store
  | .operation (.alertReceived timeout apiKey payload), desk =>
      desk.store.newOrders ((Turn.operation (.alertReceived timeout apiKey payload)).after desk).store
  | _, _ => []

/-- A turn gives out what it takes. -/
theorem takes (turn : Turn) (desk : Desk) :
    Takes desk.store (turn.after desk).store (turn.given desk) := by
  cases turn with
  | access work => exact work.takes desk
  | dispatch w subject =>
      cases subject with
      | workOrder order => exact .nothing (Dispatch.workOrder_uncounted w order desk)
      | request request => exact .nothing (Dispatch.request_uncounted w request desk)
      | purchaseOrder order => exact .nothing (Dispatch.purchaseOrder_uncounted w order desk)
      | part part =>
          have kept : Preserves Desk.tally (Dispatch.part w part) := Dispatch.part_preserves w part
          exact .nothing (kept desk)
      | task task => exact .nothing (Dispatch.task_uncounted w task desk)
      | alert alert => exact Dispatch.alert_takes w alert desk
  | operation work =>
      have kept (noAlert : work.isAlert = false) := Operation.after_uncounted noAlert desk
      cases work with
      | alertReceived timeout apiKey payload =>
          exact Gateway.handle_takes timeout apiKey payload desk
      | _ => exact .nothing (kept rfl)
  | outages now => exact .nothing rfl

/-- The work orders that an alert opens have numbers that the turn gives out. -/
theorem labels (turn : Turn) (desk : Desk) :
    ((turn.opened desk).map WorkOrderRow.label).Sublist
      ((turn.given desk).map Allotment.label) := by
  cases turn with
  | access work => exact List.nil_sublist _
  | dispatch w subject =>
      cases subject with
      | alert alert => exact Dispatch.alert_labels w alert desk
      | _ => exact List.nil_sublist _
  | operation work =>
      cases work with
      | alertReceived timeout apiKey payload =>
          exact Gateway.handle_labels timeout apiKey payload desk
      | _ => exact List.nil_sublist _
  | outages now => exact List.nil_sublist _

/-! ## Runs -/

/-- The desk after some turns. -/
def afterAll (turns : List Turn) (start : Desk) : Desk :=
  turns.foldl (fun desk turn => turn.after desk) start

/-- The numbers that are given out in some turns. -/
def givenIn : List Turn → Desk → List Allotment
  | [], _ => []
  | turn :: rest, desk => turn.given desk ++ givenIn rest (turn.after desk)

/-- The work orders that alerts open in some turns. -/
def openedIn : List Turn → Desk → List WorkOrderRow
  | [], _ => []
  | turn :: rest, desk => turn.opened desk ++ openedIn rest (turn.after desk)

/-- Some turns go on with the numbers of each company. -/
theorem givenIn_goesOn (turns : List Turn) {start : Desk} {count : Uuid → Nat}
    (stands : ∀ company, StandsAt (count company) (start.store.countersOf company.text))
    (company : Uuid) :
    GoesOn (count company) (numbersOf company (givenIn turns start))
      ((afterAll turns start).store.countersOf company.text) := by
  induction turns generalizing start count with
  | nil => exact .stay (stands company)
  | cons turn rest ih =>
      have step (other : Uuid) := (turn.takes start).goesOn stands other
      rw [givenIn, numbersOf_append]
      exact (step company).append (ih (fun other => (step other).stands))

/-- The work orders that alerts open have numbers that are given out, in this order. -/
theorem openedIn_labels (turns : List Turn) (start : Desk) :
    ((openedIn turns start).map WorkOrderRow.label).Sublist
      ((givenIn turns start).map Allotment.label) := by
  induction turns generalizing start with
  | nil => exact List.nil_sublist _
  | cons turn rest ih =>
      rw [openedIn, givenIn, List.map_append, List.map_append]
      exact (turn.labels start).append (ih (turn.after start))

/-- No turn removes a table. -/
theorem intact_afterAll (turns : List Turn) {start : Desk} (intact : start.store.Intact) :
    (afterAll turns start).store.Intact := by
  induction turns generalizing start with
  | nil => exact intact
  | cons turn rest ih => exact ih ((turn.takes start).intact intact)

/-- What is true of the numbers that are given out in some turns.  They are in order, and the
next one is there for who asks, as long as the integers of 64 bits last.  The work orders
that alerts open have such numbers, and no two of one company have the same. -/
structure Numbered (turns : List Turn) (start : Desk) : Prop where
  inOrder : ∀ {company : Uuid} {k : Nat} {number : String},
    (numbersOf company (givenIn turns start))[k]? = some number → number = numberText (k + 1)
  available : ∀ company : Uuid,
    (afterAll turns start).outages.lookup .nextOrderNumber = none →
    (numbersOf company (givenIn turns start)).length + 1 < 9223372036854775808 →
    ((Desk.nextOrderNumber company).run (afterAll turns start)).1 =
      .done (numberText ((numbersOf company (givenIn turns start)).length + 1))
  distinct : (givenIn turns start).Nodup
  labelled : ((openedIn turns start).map WorkOrderRow.label).Sublist
    ((givenIn turns start).map Allotment.label)
  apart : ((openedIn turns start).map WorkOrderRow.label).Nodup

/-- Whatever is done at a desk that has given out no number yet, the `k`-th number of a
company is that of `k`, and different numbers have different texts. -/
theorem numbered_of_unused (turns : List Turn) {start : Desk}
    (unused : start.store.counters = []) (intact : start.store.Intact) :
    Numbered turns start ∧ Function.Injective numberText := by
  have stands (company : Uuid) : StandsAt 0 (start.store.countersOf company.text) := by
    rw [Store.countersOf, unused]
    exact .unused
  have goesOn := givenIn_goesOn turns stands
  have distinct : (givenIn turns start).Nodup := nodup_of_numbersOf fun company =>
    (goesOn company).nodup
  have labelled := openedIn_labels turns start
  refine ⟨⟨?_, ?_, distinct, labelled, ?_⟩, numberText_injective⟩
  · intro company k number isNumber
    rw [(goesOn company).eq_numberText isNumber, Nat.zero_add]
  · intro company working fits
    have standing := (goesOn company).stands
    rw [Nat.zero_add] at standing
    exact Desk.run_nextOrderNumber (intact_afterAll turns intact) standing working fits
  · exact (distinct.map Allotment.label_injective).sublist labelled

/-- Two companies ask for numbers, and between them the first one gets a work order for an
alert. -/
def interleaved : List Turn :=
  [.access (.nextOrderNumber (Uuid.ofNat 0)), .access (.nextOrderNumber (Uuid.ofNat 1)),
    .operation (.alertReceived 5000 (some (Uuid.ofNat 4).text) Gateway.plainPayload),
    .access (.nextOrderNumber (Uuid.ofNat 0))]

theorem numbered_interleaved :
    Numbered interleaved Gateway.shared ∧
      givenIn interleaved Gateway.shared =
        [⟨Uuid.ofNat 0, "WO000001"⟩, ⟨Uuid.ofNat 1, "WO000001"⟩, ⟨Uuid.ofNat 0, "WO000002"⟩,
          ⟨Uuid.ofNat 0, "WO000003"⟩] ∧
      (openedIn interleaved Gateway.shared).map WorkOrderRow.label =
        [((Uuid.ofNat 0).text, some "WO000002")] := by
  have unused : Gateway.shared.store.counters = [] := List.isEmpty_iff.mp (by decide +kernel)
  have intact : Gateway.shared.store.Intact := List.isEmpty_iff.mp (by decide +kernel)
  refine ⟨(numbered_of_unused interleaved unused intact).1, ?_⟩
  decide +kernel

end Turn

end Caretaker
