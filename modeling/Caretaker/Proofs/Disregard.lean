import Caretaker.Proofs.Desk.Alongside
import Caretaker.Proofs.Store.Loaded
import Caretaker.Webhook.Gateway
import Mathlib.Data.List.Forall2

/-!
# What alerts disregard

Of an action, an alert looks at what kind of ticket to open and at what the ticket is
assigned to.  Rows of actions are alike for alerts when they agree on that and can be read
alike; the other columns may hold anything.

When the rows of a store are replaced by such rows, the workflows that are loaded are
alike, the same one of them acts, and it does the same.
-/

namespace Caretaker

open Job

/-! ## Actions and workflows that are alike -/

/-- The actions open the same kind of ticket, with the same assignments. -/
structure Action.AlikeForAlerts (a other : Action) : Prop where
  task : other.taskAction = a.taskAction
  team : other.team = a.team
  user : other.user = a.user
  asset : other.asset = a.asset
  location : other.location = a.location
  category : other.category = a.category

/-- The row of an action can be read. -/
def ActionRow.Readable (row : ActionRow) : Prop :=
  ∃ numberValue action, row.numberValue.float? "\"number_value\"" = .ok numberValue ∧
    row.action numberValue = .ok action

/-- The rows have the same columns that an alert looks at, and if the first can be read,
so can the second. -/
structure ActionRow.AlikeForAlerts (row other : ActionRow) : Prop where
  id : other.id = row.id
  task : other.taskAction = row.taskAction
  team : other.teamId = row.teamId
  user : other.userId = row.userId
  asset : other.assetId = row.assetId
  location : other.locationId = row.locationId
  category : other.categoryId = row.categoryId
  readable : row.Readable → other.Readable

/-- The workflows differ only in what an alert disregards. -/
structure Workflow.AlikeForAlerts (w other : Workflow) : Prop where
  rest : other = { w with action := other.action }
  action : w.action.AlikeForAlerts other.action

/-- What is read from the columns that an alert looks at. -/
theorem ActionRow.columns_of_action {row : ActionRow} {numberValue : Option Float} {a : Action}
    (read : row.action numberValue = .ok a) :
    Stored.opt Stored.exact row.taskAction = .ok a.taskAction ∧
      Stored.opt Stored.uuid row.teamId = .ok a.team ∧
      Stored.opt Stored.uuid row.userId = .ok a.user ∧
      Stored.opt Stored.uuid row.assetId = .ok a.asset ∧
      Stored.opt Stored.uuid row.locationId = .ok a.location ∧
      Stored.opt Stored.uuid row.categoryId = .ok a.category := by
  simp only [ActionRow.action, bind_eq_ok_iff, pure_eq_ok_iff] at read
  obtain ⟨_, -, _, -, _, -, _, -, _, task, _, team, _, user, _, asset, _, location, _, category,
    _, -, _, -, _, -, rfl⟩ := read
  exact ⟨task, team, user, asset, location, category⟩

/-- Actions that were read from alike rows are alike. -/
theorem ActionRow.AlikeForAlerts.action {row other : ActionRow} (alike : row.AlikeForAlerts other)
    {numberValue otherValue : Option Float} {a b : Action} (read : row.action numberValue = .ok a)
    (readOther : other.action otherValue = .ok b) : a.AlikeForAlerts b := by
  obtain ⟨task, team, user, asset, location, category⟩ := columns_of_action read
  obtain ⟨task', team', user', asset', location', category'⟩ := columns_of_action readOther
  rw [alike.task, task] at task'
  rw [alike.team, team] at team'
  rw [alike.user, user] at user'
  rw [alike.asset, asset] at asset'
  rw [alike.location, location] at location'
  rw [alike.category, category] at category'
  exact ⟨(Except.ok.inj task').symm, (Except.ok.inj team').symm, (Except.ok.inj user').symm,
    (Except.ok.inj asset').symm, (Except.ok.inj location').symm, (Except.ok.inj category').symm⟩

/-- Of alike rows, alike workflows are read. -/
theorem WorkflowRow.exists_alike {row : WorkflowRow} {actionRow other : ActionRow}
    (alike : actionRow.AlikeForAlerts other) {w : Workflow} (read : row.workflow actionRow = .ok w) :
    ∃ w', row.workflow other = .ok w' ∧ w.AlikeForAlerts w' := by
  simp only [WorkflowRow.workflow, bind_eq_ok_iff, pure_eq_ok_iff] at read
  obtain ⟨enabled, switched, number, readNumber, trigger, set, action, readAction, id, named,
    company, own, created, since, updated, last, rfl⟩ := read
  obtain ⟨number', action', readNumber', readAction'⟩ :=
    alike.readable ⟨number, action, readNumber, readAction⟩
  let w' : Workflow :=
    ⟨id, company, row.title, trigger, [], action', enabled, created, updated⟩
  refine ⟨w', ?_, rfl, alike.action readAction readAction'⟩
  simp only [WorkflowRow.workflow, switched, readNumber', set, readAction', named, own, since, last,
    ok_bind]
  rfl

/-! ## Loading alike workflows -/

namespace Store

/-- The store with the rows of actions replaced one by one. -/
def withActions (s : Store) (replace : ActionRow → ActionRow) : Store :=
  { s with actions := s.actions.map replace }

/-- Rows that are replaced by others to the same effect are read to the same effect. -/
theorem exists_readAll_map {ρ α : Type} {read : ρ → Except StoreError α} {replace : ρ → ρ}
    {related : α → α → Prop} {rows : List ρ}
    (same : ∀ row ∈ rows, ∀ value, read row = .ok value →
      ∃ other, read (replace row) = .ok other ∧ related value other)
    {values : List α} (answer : readAll read rows = .ok values) :
    ∃ others, readAll read (rows.map replace) = .ok others ∧ List.Forall₂ related values others := by
  induction rows generalizing values with
  | nil =>
      cases answer
      exact ⟨[], rfl, .nil⟩
  | cons row rest ih =>
      simp only [readAll, bind_eq_ok_iff, pure_eq_ok_iff] at answer
      obtain ⟨value, readRow, later, readRest, rfl⟩ := answer
      obtain ⟨sameRow, sameRest⟩ := List.forall_mem_cons.mp same
      obtain ⟨other, readOther, relatedRow⟩ := sameRow value readRow
      obtain ⟨others, readOthers, relatedRest⟩ := ih sameRest readRest
      refine ⟨other :: others, ?_, .cons relatedRow relatedRest⟩
      rw [List.map_cons, readAll, readOther, ok_bind, readOthers, ok_bind]
      rfl

variable {s : Store} {replace : ActionRow → ActionRow}

/-- Joined rows are those from before, with the rows of actions replaced. -/
theorem joined_withActions (keeps : ∀ row ∈ s.actions, (replace row).id = row.id) :
    (s.withActions replace).joined = s.joined.map fun row => (row.1, replace row.2) := by
  have finds (id : String) : (s.actions.map replace).find? (fun action => action.id == id) =
      (s.actions.find? fun action => action.id == id).map replace := by
    rw [List.find?_map, ← List.head?_filter, ← List.head?_filter]
    congr 2
    apply List.filter_congr
    intro row member
    rw [Function.comp_apply, keeps row member]
  rw [joined, joined, List.map_filterMap]
  apply List.filterMap_congr
  intro row _
  rw [withActions, finds, Option.map_map, Option.map_map]
  rfl

/-- Every row of an action that is joined is a row of the table. -/
theorem mem_actions_of_joined {row : JoinedRow} (member : row ∈ s.joined) : row.2 ∈ s.actions := by
  obtain ⟨w, -, joins⟩ := List.mem_filterMap.mp member
  obtain ⟨action, found, rfl⟩ := Option.map_eq_some_iff.mp joins
  exact List.mem_of_find?_eq_some found

/-- Alike workflows get the same conditions, and stay alike. -/
theorem forall₂_attach {conditions : List (String × Condition)} {workflows others : List Workflow}
    (alike : List.Forall₂ Workflow.AlikeForAlerts workflows others) :
    List.Forall₂ Workflow.AlikeForAlerts (attach conditions workflows) (attach conditions others) := by
  induction alike generalizing conditions with
  | nil => exact .nil
  | cons first rest ih =>
      rename_i w other _ _
      have sameId : other.id = w.id := by rw [first.rest]
      rw [attach, attach, sameId]
      refine .cons ⟨?_, first.action⟩ ih
      rw [first.rest]

theorem readWorkflows_withActions {rows : List JoinedRow} {found : List Workflow}
    (alike : ∀ row ∈ rows, row.2.AlikeForAlerts (replace row.2))
    (answer : s.readWorkflows rows = .ok found) :
    ∃ others, (s.withActions replace).readWorkflows
        (rows.map fun row => (row.1, replace row.2)) = .ok others ∧
      List.Forall₂ Workflow.AlikeForAlerts found others := by
  simp only [readWorkflows, bind_eq_ok_iff] at answer
  obtain ⟨bare, read, answer⟩ := answer
  have reads : ∀ row ∈ rows, ∀ w, row.1.workflow row.2 = .ok w →
      ∃ w', row.1.workflow (replace row.2) = .ok w' ∧ w.AlikeForAlerts w' :=
    fun row member w readRow => WorkflowRow.exists_alike (alike row member) readRow
  obtain ⟨bare', read', alikeBare⟩ :=
    @exists_readAll_map _ _ (fun row : JoinedRow => row.1.workflow row.2)
      (fun row => (row.1, replace row.2)) Workflow.AlikeForAlerts rows reads bare read
  have sameIds : bare.map (fun w => w.id.text) = bare'.map fun w => w.id.text := by
    have pairs : List.Forall₂ (fun a b => a = b) (bare.map fun w => w.id.text)
        (bare'.map fun w => w.id.text) := by
      rw [List.forall₂_map_left_iff, List.forall₂_map_right_iff]
      exact alikeBare.imp fun w other same => by rw [same.rest]
    rwa [List.forall₂_eq_eq_eq] at pairs
  have sameEmpty : bare.isEmpty = bare'.isEmpty := by
    cases alikeBare <;> rfl
  rw [readWorkflows, read', ok_bind, ← sameEmpty]
  split at answer
  · rename_i none
    cases answer
    exact ⟨[], by rw [if_pos none]; rfl, .nil⟩
  · rename_i some
    simp only [bind_eq_ok_iff, pure_eq_ok_iff] at answer
    obtain ⟨conditions, readConditions, rfl⟩ := answer
    refine ⟨attach conditions bare', ?_, forall₂_attach alikeBare⟩
    have same : (s.withActions replace).conditionsOf (bare'.map fun w => w.id.text) =
        .ok conditions := by
      rw [← sameIds]
      exact readConditions
    rw [if_neg some, same, ok_bind]
    rfl

/-- The rows that a query picks are replaced where they stand. -/
theorem sortJoined_withActions (keeps : ∀ row ∈ s.actions, (replace row).id = row.id)
    (picked : WorkflowRow → Bool) :
    sortJoined ((s.withActions replace).joined.filter fun row => picked row.1) =
      (sortJoined (s.joined.filter fun row => picked row.1)).map
        fun row => (row.1, replace row.2) := by
  rw [joined_withActions keeps, List.filter_map, sortJoined, oldestFirst_map]
  rfl

/-- The workflows that are loaded after the rows of actions were replaced by alike ones are
alike to those that were loaded before. -/
theorem workflowsFor_withActions (alike : ∀ row ∈ s.actions, row.AlikeForAlerts (replace row))
    {company : Uuid} {trigger : Trigger} {found : List Workflow}
    (answer : s.workflowsFor company trigger = .ok found) :
    ∃ others, (s.withActions replace).workflowsFor company trigger = .ok others ∧
      List.Forall₂ Workflow.AlikeForAlerts found others := by
  simp only [workflowsFor, bind_eq_ok_iff] at answer
  obtain ⟨_, there, answer⟩ := answer
  have alikeRows : ∀ row ∈ sortJoined (s.joined.filter fun row =>
      row.1.companyId == company.text && row.1.mainCondition == Json.word trigger),
      row.2.AlikeForAlerts (replace row.2) := by
    intro row member
    have joins := (List.mem_filter.mp (mem_oldestFirst.mp member)).1
    exact alike row.2 (mem_actions_of_joined joins)
  obtain ⟨others, answers, alikeFound⟩ := readWorkflows_withActions alikeRows answer
  have there' : (s.withActions replace).require .workflows = .ok () := there
  refine ⟨others, ?_, alikeFound⟩
  rw [workflowsFor, there', ok_bind, sortJoined_withActions (fun row member => (alike row member).id)
    fun row => row.companyId == company.text && row.mainCondition == Json.word trigger]
  exact answers

end Store

/-! ## Selecting and dispatching alike workflows -/

/-- Of alike workflows, the same one is selected. -/
theorem Workflow.firstMatch_alike {workflows others : List Workflow}
    (alike : List.Forall₂ AlikeForAlerts workflows others) {subject : Subject} {w : Workflow}
    (selected : firstMatch workflows subject = some w) :
    ∃ other, firstMatch others subject = some other ∧ w.AlikeForAlerts other := by
  induction alike with
  | nil => cases selected
  | @cons first other rest others' alikeFirst alikeRest ih =>
      have sameTest : (other.enabled && other.matchesSubject subject) =
          (first.enabled && first.matchesSubject subject) := by
        rw [alikeFirst.rest]
        rfl
      rw [firstMatch, List.find?_cons] at selected
      rw [firstMatch, List.find?_cons, sameTest]
      cases picks : first.enabled && first.matchesSubject subject with
      | true =>
          rw [picks] at selected
          cases selected
          exact ⟨other, rfl, alikeFirst⟩
      | false =>
          rw [picks] at selected
          exact ih selected

/-- Alike workflows do the same to an alert. -/
theorem Dispatch.alert_alike {w other : Workflow} (alike : w.AlikeForAlerts other) (subject : Alert) :
    alert other subject = alert w subject := by
  obtain ⟨rest, task, team, user, asset, location, category⟩ := alike
  have sameTickets : openTicket other subject = openTicket w subject := by
    unfold openTicket ticketFor
    rw [rest]
    simp only [team, user, asset, location, category]
  unfold alert
  rw [sameTickets, task, rest]
  rfl

/-! ## Replacing rows of actions under a dispatch -/

namespace Desk

variable {replace : ActionRow → ActionRow}

/-- The desk with the rows of actions replaced one by one. -/
def withActions (desk : Desk) (replace : ActionRow → ActionRow) : Desk :=
  { desk with store := desk.store.withActions replace }

/-- The second desk is the first one, with the rows of actions replaced. -/
def Replaced (replace : ActionRow → ActionRow) (a b : Desk) : Prop :=
  b = a.withActions replace

theorem write_replaced {f : Store → Except StoreError Store}
    (commutes : ∀ s : Store, f (s.withActions replace) = (f s).map (·.withActions replace)) :
    Alongside (Replaced replace) (write f) (write f) (fun value other => value = other)
      (Replaced replace) := by
  rintro a _ rfl
  rw [run_write, run_write, withActions, commutes]
  cases f a.store with
  | ok store => exact ⟨.done rfl, rfl⟩
  | error error => exact ⟨.failed error, rfl⟩

theorem change_replaced {α : Type} {f : Store → Except StoreError (α × Store)}
    (commutes : ∀ s : Store, f (s.withActions replace) =
      (f s).map fun result => (result.1, result.2.withActions replace)) :
    Alongside (Replaced replace) (change f) (change f) (fun value other => value = other)
      (Replaced replace) := by
  rintro a _ rfl
  rw [run_change, run_change, withActions, commutes]
  cases f a.store with
  | ok result => exact ⟨.done rfl, rfl⟩
  | error error => exact ⟨.failed error, rfl⟩

theorem through_replaced {channel : Channel} {α : Type} {job : Job StoreError α}
    (side : Alongside (Replaced replace) job job (fun value other => value = other)
      (Replaced replace)) :
    Alongside (Replaced replace) (through channel job) (through channel job)
      (fun value other => value = other) (Replaced replace) := by
  apply Alongside.through side
  · rintro a _ rfl
    rfl
  · exact fun _ _ level => level

end Desk

namespace Store

variable (s : Store) (replace : ActionRow → ActionRow)

theorem saveWorkOrder_withActions (order : WorkOrder) :
    (s.withActions replace).saveWorkOrder order =
      (s.saveWorkOrder order).map (·.withActions replace) := by
  have there : (s.withActions replace).require .workOrders = s.require .workOrders := rfl
  rw [saveWorkOrder, saveWorkOrder, there]
  cases s.require .workOrders <;> rfl

theorem saveRequest_withActions (request : Request) :
    (s.withActions replace).saveRequest request =
      (s.saveRequest request).map (·.withActions replace) := by
  have there : (s.withActions replace).require .requests = s.require .requests := rfl
  rw [saveRequest, saveRequest, there]
  cases s.require .requests <;> rfl

theorem advanceCounter_withActions (company : Uuid) :
    (s.withActions replace).advanceCounter company =
      (s.advanceCounter company).map fun result => (result.1, result.2.withActions replace) := by
  have there : (s.withActions replace).require .workOrderCounters =
      s.require .workOrderCounters := rfl
  rw [advanceCounter, advanceCounter, there]
  cases s.require .workOrderCounters <;> rfl

end Store

namespace Dispatch

open Desk

variable (replace : ActionRow → ActionRow)

theorem openTicket_replaced (w : Workflow) (subject : Alert) :
    Alongside (Replaced replace) (openTicket w subject) (openTicket w subject)
      (fun ticket other => ticket = other) (Replaced replace) := by
  rintro a _ rfl
  exact ⟨.done rfl, rfl⟩

theorem nextOrderNumber_replaced (company : Uuid) :
    Alongside (Replaced replace) (nextOrderNumber company) (nextOrderNumber company)
      (fun number other => number = other) (Replaced replace) := by
  apply through_replaced
  apply Alongside.bind (change_replaced fun s => s.advanceCounter_withActions replace company)
  · rintro next _ rfl a _ rfl
    rw [run_read, run_read]
    cases Store.readCounter next with
    | ok number => exact ⟨.done rfl, rfl⟩
    | error error => exact ⟨.failed error, rfl⟩
  · exact fun _ _ level => level

/-- The rows of actions play no part in a dispatch. -/
theorem alert_replaced (w : Workflow) (subject : Alert) :
    Alongside (Replaced replace) (alert w subject) (alert w subject)
      (fun effect other => effect = other) (Replaced replace) := by
  have keep : ∀ a b, Replaced replace a b → Replaced replace a b := fun _ _ level => level
  unfold alert
  split
  · exact Alongside.pure rfl keep
  · split
    · apply Alongside.bind (openTicket_replaced replace w subject)
      · rintro ticket _ rfl
        apply Alongside.bind (nextOrderNumber_replaced replace w.companyId)
        · rintro number _ rfl
          apply Alongside.bind (through_replaced (write_replaced fun s =>
            s.saveWorkOrder_withActions replace _))
          · exact fun _ _ _ => Alongside.pure rfl keep
          · exact keep
        · exact keep
      · exact keep
    · apply Alongside.bind (openTicket_replaced replace w subject)
      · rintro ticket _ rfl
        apply Alongside.bind (through_replaced (write_replaced fun s =>
          s.saveRequest_withActions replace _))
        · exact fun _ _ _ => Alongside.pure rfl keep
        · exact keep
      · exact keep
    · exact Alongside.pure rfl keep
    · exact Alongside.pure rfl keep

end Dispatch

end Caretaker
