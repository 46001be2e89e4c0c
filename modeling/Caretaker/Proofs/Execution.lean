import Caretaker.Proofs.Disregard
import Caretaker.Proofs.GateOrder

/-!
# What an executed call has done

A call that was answered with a workflow has run that workflow.  If the workflow opens a
work order or a request, exactly one row was added to that table, and its content is
determined by the alert, the workflow and the company of the key.  A work order takes the
next number of its company, and nothing else does.  If the workflow opens nothing, nothing
has changed.

Of the action of the workflow, and of all other actions, only what alerts look at matters:
with rows of actions that are alike for alerts, the call is answered alike and leaves the
same store but for those rows.
-/

namespace Caretaker

open Job

theorem Priority.ofText_ranked (text : Option String) :
    ofText text = .low ∨ ofText text = .medium ∨ ofText text = .high := by
  unfold ofText
  split
  · exact .inr (.inr rfl)
  · exact .inl rfl
  · exact .inr (.inl rfl)

/-! ## Taking a number -/

namespace Store

theorem advanceCounter_eq_of_ok {s counted : Store} {company : Uuid} {next : Cell}
    (moved : s.advanceCounter company = .ok (next, counted)) :
    next = nextCount (s.countersOf company.text) ∧
      counted = { s with counters := setCounter company.text next s.counters } := by
  simp only [advanceCounter, bind_eq_ok_iff, pure_eq_ok_iff, Prod.mk.injEq] at moved
  obtain ⟨_, -, rfl, rfl⟩ := moved
  refine ⟨?_, rfl⟩
  cases located : s.counters.find? fun row => row.companyId == company.text <;>
    simp [nextCount, countersOf, located]

theorem readCounter_eq_ok_iff {next : Cell} {number : String} :
    readCounter next = .ok number ↔ ∃ n, next = .int n ∧ number = orderNumber n := by
  cases next <;> simp [readCounter, eq_comm]

end Store

/-! ## Rows that are filed -/

/-- The ticket is open, belongs to the company, and says what the alert and the workflow
say. -/
structure Ticket.OpenedFor (t : Ticket) (w : Workflow) (alert : Alert) (company : Uuid) : Prop where
  company : t.companyId = company
  title : t.title = "Auto-created: " ++ alert.alertName
  description : t.description = some ("Created from Grafana alert: " ++ alert.message.getD "")
  status : t.status = .opened
  priority : t.priority = alert.priority
  ranked : t.priority = .low ∨ t.priority = .medium ∨ t.priority = .high
  noDueDate : t.dueDate = none
  asset : t.assetId = w.action.asset
  location : t.locationId = w.action.location
  team : t.teamId = w.action.team
  user : t.userId = w.action.user
  category : t.categoryId = w.action.category

/-- What a workflow of a company files for an alert: the store before, the effect, and the
store after. -/
inductive Files (w : Workflow) (alert : Alert) (company : Uuid) (before : Store) :
    Effect → Store → Prop where
  | order {t : Ticket} {n : Int} (selected : w.action.taskAction = some .createWorkOrder)
      (opened : t.OpenedFor w alert company)
      (unused : ∀ row ∈ before.workOrders, row.id ≠ t.id.text)
      (next : nextCount (before.countersOf company.text) = .int n) :
      Files w alert company before .applied { before with
        workOrders := before.workOrders ++
          [.ofOrder { t with number := some (Store.orderNumber n) }]
        counters := Store.setCounter company.text (.int n) before.counters }
  | request {t : Ticket} (selected : w.action.taskAction = some .createRequest)
      (opened : t.OpenedFor w alert company)
      (unused : ∀ row ∈ before.requests, row.id ≠ t.id.text) :
      Files w alert company before .applied { before with
        requests := before.requests ++ [.ofTicket t] }
  | nothing (noOrder : w.action.taskAction ≠ some .createWorkOrder)
      (noRequest : w.action.taskAction ≠ some .createRequest) :
      Files w alert company before .nothing before

section

variable {w : Workflow} {alert : Alert} {company : Uuid} {before after : Store} {effect : Effect}

/-- Something is applied exactly when the workflow opens a ticket. -/
theorem Files.applied_iff (files : Files w alert company before effect after) :
    effect = .applied ↔ w.action.taskAction = some .createWorkOrder ∨
      w.action.taskAction = some .createRequest := by
  cases files with
  | order selected => simp [selected]
  | request selected => simp [selected]
  | nothing noOrder noRequest => simp [noOrder, noRequest]

theorem Files.effect_cases (files : Files w alert company before effect after) :
    effect = .applied ∨ effect = .nothing := by
  cases files with
  | order => exact .inl rfl
  | request => exact .inl rfl
  | nothing => exact .inr rfl

end

namespace Dispatch

variable {w : Workflow} {subject : Alert} {desk : Desk} {company : Uuid}

theorem nextTicket_openedFor (own : w.companyId = company) :
    (nextTicket w subject desk).OpenedFor w subject company where
  company := own
  title := rfl
  description := rfl
  status := rfl
  priority := rfl
  ranked := Priority.ofText_ranked _
  noDueDate := rfl
  asset := rfl
  location := rfl
  team := rfl
  user := rfl
  category := rfl

/-- A dispatch that ends with an effect has filed what the workflow says, under an
identifier that was not in use. -/
theorem alert_files {effect : Effect} {left : Desk} (met : w.matchesSubject (.alert subject) = true)
    (own : w.companyId = company) (unused : desk.Unused (desk.source.id desk.source.drawn))
    (dispatched : (alert w subject).run desk = (.done effect, left)) :
    Files w subject company desk.store effect left.store := by
  have ends := alert_ends w subject desk
  rw [dispatched] at ends
  have opened : (nextTicket w subject desk).OpenedFor w subject company := nextTicket_openedFor own
  cases ends with
  | unmet notMet =>
      rw [notMet] at met
      cases met
  | idle _ noOrder noRequest => exact .nothing noOrder noRequest
  | @ordered next counted s' number _ selected moved content saved =>
      rw [own] at moved
      obtain ⟨isNext, rfl⟩ := Store.advanceCounter_eq_of_ok moved
      obtain ⟨n, rfl, rfl⟩ := Store.readCounter_eq_ok_iff.mp content
      have absent : ∀ row ∈ desk.store.workOrders,
          (row.id == (nextTicket w subject desk).id.text) = false :=
        fun row member => beq_false_of_ne (unused.1 row member)
      simp only [Store.saveWorkOrder, bind_eq_ok_iff, pure_eq_ok_iff,
        Store.upsert_of_absent absent] at saved
      obtain ⟨_, -, rfl⟩ := saved
      exact .order selected opened unused.1 isNext.symm
  | @requested s' _ selected saved =>
      have absent : ∀ row ∈ desk.store.requests,
          (row.id == (nextTicket w subject desk).id.text) = false :=
        fun row member => beq_false_of_ne (unused.2 row member)
      simp only [Store.saveRequest, bind_eq_ok_iff, pure_eq_ok_iff,
        Store.upsert_of_absent absent] at saved
      obtain ⟨_, -, rfl⟩ := saved
      exact .request selected opened unused.2
  | brokenOff unfinished => cases unfinished
  | brokenOffCounting unfinished moved => cases unfinished

end Dispatch

/-! ## Executed calls -/

namespace Gateway

/-- What is true of a call with a key that was answered with a workflow and an effect. -/
structure Executes (timeout : Nat) (key : String) (payload : List UInt8) (desk : Desk)
    (config : WebhookConfig) (alert : Alert) (candidates : List Workflow) (w : Workflow)
    (effect : Effect) (after : Desk) : Prop where
  admitted : Admitted desk key payload config alert candidates
  selected : Workflow.firstMatch candidates (.alert alert) = some w
  own : w.companyId = config.companyId
  applied : effect = .applied ↔ w.action.taskAction = some .createWorkOrder ∨
    w.action.taskAction = some .createRequest
  otherwise : effect = .applied ∨ effect = .nothing
  files : Files w alert config.companyId desk.store effect after.store
  disregards : ∀ replace, (∀ row ∈ desk.store.actions, row.AlikeForAlerts (replace row)) →
    (handle timeout (some key) payload).run (desk.withActions replace) =
      (.done (.executed w.id effect), after.withActions replace)

variable {timeout : Nat} {key : String} {payload : List UInt8} {desk : Desk}
  {config : WebhookConfig} {alert : Alert} {candidates : List Workflow} {w : Workflow}

/-- Asking for a token uses up no identifier that a row has. -/
theorem freshIds_tokenAsked (key : String) (fresh : desk.FreshIds) :
    (tokenAsked key desk).FreshIds := by
  intro n drawn
  obtain ⟨noOrder, noRequest⟩ := fresh n (Nat.le_of_succ_le drawn)
  exact ⟨noOrder, noRequest⟩

/-- A call that is settled with a workflow and an effect has dispatched the workflow to that
effect. -/
theorem dispatched_of_settled {selected : Option Workflow} {company id : Uuid} {effect : Effect}
    {after : Desk} (run : (settle timeout company alert selected).run desk =
      (.done (.executed id effect), after)) :
    ∃ w, selected = some w ∧ w.id = id ∧ (Dispatch.alert w alert).run desk = (.done effect, after) := by
  cases selected with
  | none => cases run
  | some w =>
      rw [settle] at run
      rcases ended : (Dispatch.alert w alert).run desk with ⟨outcome, left⟩
      cases unfinished : isDone outcome with
      | false =>
          have givenUp := execute_givenUp company alert timeout ended unfinished
          rw [run] at givenUp
          rcases givenUp.reported with ⟨_, failed⟩ | stalled
          · cases failed
          · cases stalled
      | true =>
          cases outcome with
          | done result =>
              rw [run_execute_of_done company alert timeout ended] at run
              cases run
              exact ⟨w, rfl, rfl, ended⟩
          | failed error => cases unfinished
          | stalled => cases unfinished

/-- A call is also admitted when the rows of actions are replaced by alike ones, and the
candidates are alike. -/
theorem Admitted.withActions (admitted : Admitted desk key payload config alert candidates)
    {replace : ActionRow → ActionRow}
    (alike : ∀ row ∈ desk.store.actions, row.AlikeForAlerts (replace row)) :
    ∃ others, Admitted (desk.withActions replace) key payload config alert others ∧
      List.Forall₂ Workflow.AlikeForAlerts candidates others := by
  obtain ⟨working, loaded⟩ := run_read_eq_done_iff.mp admitted.loaded
  obtain ⟨others, loads, alikeFound⟩ := Store.workflowsFor_withActions alike loaded
  have found : ((Desk.findConfigByKey key).run (desk.withActions replace)).1 =
      .done (some config) :=
    run_read_eq_done_iff.mpr (run_read_eq_done_iff.mp admitted.found)
  exact ⟨others, ⟨⟨admitted.given, admitted.token, found, admitted.enabled, admitted.normal⟩,
    run_read_eq_done_iff.mpr ⟨working, loads⟩⟩, alikeFound⟩

/-- A workflow that was selected and dispatched is dispatched to the same effect when the
rows of actions are replaced by alike ones. -/
theorem Admitted.disregards (admitted : Admitted desk key payload config alert candidates)
    (selected : Workflow.firstMatch candidates (.alert alert) = some w) {effect : Effect}
    {after : Desk}
    (dispatched : (Dispatch.alert w alert).run (tokenAsked key desk) = (.done effect, after))
    {replace : ActionRow → ActionRow}
    (alike : ∀ row ∈ desk.store.actions, row.AlikeForAlerts (replace row)) :
    (handle timeout (some key) payload).run (desk.withActions replace) =
      (.done (.executed w.id effect), after.withActions replace) := by
  obtain ⟨others, admitted', alikeFound⟩ := admitted.withActions alike
  obtain ⟨w', selected', alikeW⟩ := Workflow.firstMatch_alike alikeFound selected
  obtain ⟨same, level⟩ := Dispatch.alert_replaced replace w alert (tokenAsked key desk)
    ((tokenAsked key desk).withActions replace) rfl
  rw [dispatched] at same level
  have dispatched' : (Dispatch.alert w' alert).run (tokenAsked key (desk.withActions replace)) =
      (.done effect, after.withActions replace) := by
    rw [Dispatch.alert_alike alikeW]
    exact Prod.ext same.eq.symm level
  have sameId : w'.id = w.id := by rw [alikeW.rest]
  rw [admitted'.run_handle, selected', settle,
    run_execute_of_done config.companyId alert timeout dispatched', sameId]

/-- An executed call has run the first of the loaded workflows whose conditions hold.  It
opened what the workflow says, and nothing else mattered but what alerts look at. -/
theorem handle_executes {after : Desk} {apiKey : Option String} {id : Uuid} {effect : Effect}
    (fresh : desk.FreshIds)
    (executed : (handle timeout apiKey payload).run desk = (.done (.executed id effect), after)) :
    ∃ key config alert candidates w, apiKey = some key ∧ w.id = id ∧
      Executes timeout key payload desk config alert candidates w effect after := by
  cases handle_passage timeout apiKey payload desk with
  | stopped first run =>
      rw [executed] at run
      have unfinished := isDone_of_firstStop first
      cases run
      cases unfinished
  | @settled key config alert candidates given first admitted run =>
      rw [executed] at run
      obtain ⟨w, selected, named, dispatched⟩ := dispatched_of_settled run.symm
      obtain ⟨-, loaded⟩ := run_read_eq_done_iff.mp admitted.loaded
      have own := Store.companyId_of_workflowsFor loaded w (List.mem_of_find?_eq_some selected)
      have picked := List.find?_some selected
      have met : w.matchesSubject (.alert alert) = true := (Bool.and_eq_true _ _).mp picked |>.2
      have unused := freshIds_tokenAsked key fresh _ (Nat.le_refl _)
      have files := Dispatch.alert_files met own unused dispatched
      refine ⟨key, config, alert, candidates, w, given, named, ?_⟩
      constructor
      · exact admitted
      · exact selected
      · exact own
      · exact files.applied_iff
      · exact files.effect_cases
      · exact files
      · intro replace alike
        exact admitted.disregards selected dispatched alike

theorem handle_executes_shared :
    ∃ config alert candidates w effect after,
      Executes 5000 (Uuid.ofNat 4).text plainPayload shared config alert candidates w effect
        after := by
  have fresh : shared.FreshIds := by
    apply Desk.freshIds_of_noTickets
    · exact List.isEmpty_iff.mp (by decide +kernel)
    · exact List.isEmpty_iff.mp (by decide +kernel)
  have executed : hasExecuted
      ((handle 5000 (some (Uuid.ofNat 4).text) plainPayload).run shared).1 = true := by
    decide +kernel
  rcases run : (handle 5000 (some (Uuid.ofNat 4).text) plainPayload).run shared with ⟨outcome, after⟩
  rw [run] at executed
  rcases outcome with (⟨id, effect⟩ | _) | _ | _
  · obtain ⟨key, config, alert, candidates, w, given, -, executes⟩ := handle_executes fresh run
    cases given
    exact ⟨config, alert, candidates, w, effect, after, executes⟩
  · cases executed
  · cases executed
  · cases executed

end Gateway

end Caretaker
