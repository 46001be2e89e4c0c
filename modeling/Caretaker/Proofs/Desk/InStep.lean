import Caretaker.Proofs.Desk.Alongside
import Caretaker.Proofs.Store.Spread
import Caretaker.Webhook.Gateway

/-!
# Two runs in step

A dispatch on behalf of a company is run at two desks whose stores may differ in
anything but the counter of the company.  Both runs come to the same end and add the
same rows, up to identifiers and creation times, and all that they change besides is
the counter of the company.

Identifiers are drawn from a source that has not given them away before.  If one were
in use, saving under it would overwrite a row instead of adding one.
-/

namespace Caretaker

open Job

/-- The row without its identifier and its creation time. -/
def TicketRow.anonymous (row : TicketRow) : TicketRow :=
  { row with id := "", createdAt := "" }

/-- The row without its identifier and its creation time. -/
def WorkOrderRow.anonymous (row : WorkOrderRow) : WorkOrderRow :=
  { row with toTicketRow := row.toTicketRow.anonymous }

/-- Rows that a run has added. -/
structure Added where
  orders : List WorkOrderRow
  requests : List TicketRow

namespace Added

/-- No rows. -/
def none : Added :=
  ⟨[], []⟩

/-- How many rows there are. -/
def count (added : Added) : Nat :=
  added.orders.length + added.requests.length

/-- The rows without identifiers and creation times. -/
def anonymous (added : Added) : Added :=
  ⟨added.orders.map WorkOrderRow.anonymous, added.requests.map TicketRow.anonymous⟩

theorem eq_none_of_count {added : Added} (few : added.count ≤ 0) : added = none := by
  obtain ⟨orders, requests⟩ := added
  have zero : orders.length + requests.length = 0 := Nat.le_zero.mp few
  obtain ⟨noOrders, noRequests⟩ := Nat.add_eq_zero_iff.mp zero
  rw [List.eq_nil_of_length_eq_zero noOrders, List.eq_nil_of_length_eq_zero noRequests]
  rfl

end Added

/-! ## Saving under a key -/

namespace Store

variable {ρ : Type} {same : ρ → Bool} {merge : ρ → ρ → ρ} {row : ρ} {rows rows' : List ρ}

theorem upsert_of_absent (absent : ∀ old ∈ rows, same old = false) :
    upsert same merge row rows = rows ++ [row] := by
  have no : rows.any same = false := List.any_eq_false.mpr fun old member => by
    rw [absent old member]
    exact Bool.false_ne_true
  rw [upsert, no]
  rfl

/-- Saving under one key leaves the rows under all other keys alone. -/
theorem filter_upsert_of_other {other : ρ → Bool} (isOther : other row = false)
    (staysOther : ∀ old, same old = true → other old = false ∧ other (merge old row) = false) :
    (upsert same merge row rows).filter other = rows.filter other := by
  unfold upsert
  split
  · have picks : other ∘ (fun old => if same old then merge old row else old) = other := by
      funext old
      rw [Function.comp_apply]
      split
      · rename_i isSame
        rw [(staysOther old isSame).1, (staysOther old isSame).2]
      · rfl
    have leaves : ∀ old ∈ rows.filter other, (if same old then merge old row else old) = id old := by
      intro old member
      have picked : other old = true := List.of_mem_filter member
      by_cases isSame : same old = true
      · rw [(staysOther old isSame).1] at picked
        contradiction
      · rw [if_neg isSame, id_eq]
    rw [List.filter_map, picks, List.map_congr_left leaves, List.map_id]
  · rw [List.filter_append, List.filter_cons_of_neg (by simp [isOther]), List.filter_nil,
      List.append_nil]

/-- Which rows there are under a key after saving depends on which there were. -/
theorem filter_upsert_same (isSame : same row = true)
    (staysSame : ∀ old, same old = true → same (merge old row) = true) :
    (upsert same merge row rows).filter same = upsert same merge row (rows.filter same) := by
  have anySame : (rows.filter same).any same = rows.any same := by
    simp
  unfold upsert
  rw [anySame]
  split
  · have picks : same ∘ (fun old => if same old then merge old row else old) = same := by
      funext old
      rw [Function.comp_apply]
      split
      · rename_i isOld
        rw [staysSame old isOld, isOld]
      · rfl
    rw [List.filter_map, picks]
  · rw [List.filter_append, List.filter_cons_of_pos isSame, List.filter_nil]

end Store

/-! ## The counter of a company -/

/-- The rows of the counter of a company. -/
def Store.countersOf (s : Store) (company : String) : List CounterRow :=
  s.counters.filter fun row => row.companyId == company

/-- What the counter of a company holds next, given its rows. -/
def nextCount (rows : List CounterRow) : Cell :=
  match rows.head? with
  | some row => row.lastValue.successor
  | none => .int 1

namespace Store

/-- Write the content of the counter of a company. -/
def setCounter (company : String) (next : Cell) (rows : List CounterRow) : List CounterRow :=
  upsert (fun row => row.companyId == company) (fun _ new => new) ⟨company, next⟩ rows

theorem advanceCounter_eq {s : Store} (intact : s.Intact) (company : Uuid) :
    s.advanceCounter company = .ok (nextCount (s.countersOf company.text), { s with
      counters := setCounter company.text (nextCount (s.countersOf company.text)) s.counters }) := by
  simp only [advanceCounter, intact.require, ok_bind, nextCount, countersOf, List.head?_filter]
  cases s.counters.find? fun row => row.companyId == company.text with
  | none => exact pure_eq_ok_iff.mpr rfl
  | some row => exact pure_eq_ok_iff.mpr rfl

theorem filter_setCounter_same (company : String) (next : Cell) (rows : List CounterRow) :
    (setCounter company next rows).filter (fun row => row.companyId == company) =
      setCounter company next (rows.filter fun row => row.companyId == company) :=
  filter_upsert_same (beq_self_eq_true _) fun _ _ => beq_self_eq_true _

theorem filter_setCounter_of_ne {company other : String} (isOther : other ≠ company) (next : Cell)
    (rows : List CounterRow) :
    (setCounter company next rows).filter (fun row => row.companyId == other) =
      rows.filter fun row => row.companyId == other := by
  apply filter_upsert_of_other
  · exact beq_false_of_ne isOther.symm
  · intro old same
    rw [eq_of_beq same]
    exact ⟨beq_false_of_ne isOther.symm, beq_false_of_ne isOther.symm⟩

end Store

/-! ## What a run does to its desk -/

namespace Desk

/-- The identifier names no work order and no request. -/
def Unused (desk : Desk) (id : Uuid) : Prop :=
  (∀ row ∈ desk.store.workOrders, row.id ≠ id.text) ∧
    ∀ row ∈ desk.store.requests, row.id ≠ id.text

/-- No identifier that is still to be drawn is in use. -/
def FreshIds (desk : Desk) : Prop :=
  ∀ n, desk.source.drawn ≤ n → desk.Unused (desk.source.id n)

/-- Since its start, a run on behalf of a company has added rows of the company and
written to its counter. -/
structure Since (company : Uuid) (start : Desk) (added : Added) (desk : Desk) : Prop where
  store : desk.store = { start.store with
    workOrders := start.store.workOrders ++ added.orders
    requests := start.store.requests ++ added.requests
    counters := desk.store.counters }
  ownOrders : ∀ row ∈ added.orders, row.companyId = company.text
  ownRequests : ∀ row ∈ added.requests, row.companyId = company.text
  counters : ∀ other, other ≠ company.text →
    desk.store.countersOf other = start.store.countersOf other
  limiter : desk.limiter = start.limiter
  outages : desk.outages = start.outages
  ids : desk.source.id = start.source.id
  drawn : start.source.drawn ≤ desk.source.drawn

theorem Since.start (company : Uuid) (desk : Desk) : Since company desk .none desk where
  store := by simp [Added.none]
  ownOrders := by simp [Added.none]
  ownRequests := by simp [Added.none]
  counters _ _ := rfl
  limiter := rfl
  outages := rfl
  ids := rfl
  drawn := Nat.le_refl _

variable {company : Uuid} {start desk : Desk} {added : Added}

/-- Drawing from the source changes nothing else. -/
theorem Since.draw (since : Since company start added desk) :
    Since company start added
      { desk with source := { desk.source with drawn := desk.source.drawn + 1 } } :=
  { since with drawn := Nat.le_succ_of_le since.drawn }

theorem Since.intact (since : Since company start added desk) (intact : start.store.Intact) :
    desk.store.Intact := by
  rw [Store.Intact, since.store]
  exact intact

theorem Since.unused (since : Since company start added desk) (fresh : start.FreshIds) :
    start.Unused (desk.source.id desk.source.drawn) := by
  rw [since.ids]
  exact fresh _ since.drawn

/-- As long as no row was added, the tables are those from the start. -/
theorem Since.store_of_none (since : Since company start .none desk) :
    desk.store = { start.store with counters := desk.store.counters } := by
  have store := since.store
  simp only [Added.none, List.append_nil] at store
  exact store

/-- The desk after a row was added to the work orders. -/
def afterOrder (row : WorkOrderRow) (desk : Desk) : Desk :=
  { desk with store := { desk.store with workOrders := desk.store.workOrders ++ [row] } }

/-- The desk after a row was added to the requests. -/
def afterRequest (row : TicketRow) (desk : Desk) : Desk :=
  { desk with store := { desk.store with requests := desk.store.requests ++ [row] } }

/-- Saving a new work order adds its row. -/
theorem Since.run_saveWorkOrder (since : Since company start .none desk)
    (intact : start.store.Intact) (order : WorkOrder) (unused : start.Unused order.id) :
    (write fun s => s.saveWorkOrder order).run desk =
      (.done (), afterOrder (.ofOrder order) desk) := by
  have orders : desk.store.workOrders = start.store.workOrders := by
    rw [since.store_of_none]
  have absent : ∀ row ∈ desk.store.workOrders, (row.id == order.id.text) = false := by
    intro row member
    rw [orders] at member
    exact beq_false_of_ne (unused.1 row member)
  rw [run_write]
  simp only [Store.saveWorkOrder, (since.intact intact).require, ok_bind,
    Store.upsert_of_absent absent]
  rfl

theorem Since.afterOrder (since : Since company start .none desk) {row : WorkOrderRow}
    (own : row.companyId = company.text) :
    Since company start ⟨[row], []⟩ (afterOrder row desk) where
  store := by
    rw [Desk.afterOrder, since.store_of_none]
    simp
  ownOrders := List.forall_mem_singleton.mpr own
  ownRequests := by simp
  counters := since.counters
  limiter := since.limiter
  outages := since.outages
  ids := since.ids
  drawn := since.drawn

/-- Saving a new request adds its row. -/
theorem Since.run_saveRequest (since : Since company start .none desk)
    (intact : start.store.Intact) (request : Request) (unused : start.Unused request.id) :
    (write fun s => s.saveRequest request).run desk =
      (.done (), afterRequest (.ofTicket request.toTicket) desk) := by
  have requests : desk.store.requests = start.store.requests := by
    rw [since.store_of_none]
  have absent : ∀ row ∈ desk.store.requests, (row.id == request.id.text) = false := by
    intro row member
    rw [requests] at member
    exact beq_false_of_ne (unused.2 row member)
  rw [run_write]
  simp only [Store.saveRequest, (since.intact intact).require, ok_bind,
    Store.upsert_of_absent absent]
  rfl

theorem Since.afterRequest (since : Since company start .none desk) {row : TicketRow}
    (own : row.companyId = company.text) :
    Since company start ⟨[], [row]⟩ (afterRequest row desk) where
  store := by
    rw [Desk.afterRequest, since.store_of_none]
    simp
  ownOrders := by simp
  ownRequests := List.forall_mem_singleton.mpr own
  counters := since.counters
  limiter := since.limiter
  outages := since.outages
  ids := since.ids
  drawn := since.drawn

/-- The desk after the counter of a company was moved on. -/
def afterCounting (company : Uuid) (desk : Desk) : Desk :=
  { desk with store := { desk.store with
      counters := Store.setCounter company.text (nextCount (desk.store.countersOf company.text))
        desk.store.counters } }

theorem Since.afterCounting (since : Since company start added desk) :
    Since company start added (afterCounting company desk) where
  store := by
    rw [Desk.afterCounting]
    dsimp only
    rw [since.store]
  ownOrders := since.ownOrders
  ownRequests := since.ownRequests
  counters other isOther := by
    rw [← since.counters other isOther]
    exact Store.filter_setCounter_of_ne isOther _ _
  limiter := since.limiter
  outages := since.outages
  ids := since.ids
  drawn := since.drawn

/-! ## Two runs -/

/-- Since their starts, two runs have added the same rows, of which there are at most as
many as given, and the counter of the company holds the same at both desks. -/
structure InStep (company : Uuid) (startA startB : Desk) (rows : Nat) (a b : Desk) : Prop where
  since : ∃ addedA addedB, Since company startA addedA a ∧ Since company startB addedB b ∧
    addedA.anonymous = addedB.anonymous ∧ addedA.count ≤ rows ∧ addedB.count ≤ rows
  counters : a.store.countersOf company.text = b.store.countersOf company.text
  channels : a.outages = b.outages

section

variable {startA startB a b : Desk} {rows : Nat}

theorem InStep.more (level : InStep company startA startB 0 a b) :
    InStep company startA startB 1 a b := by
  obtain ⟨⟨addedA, addedB, sinceA, sinceB, same, fewA, fewB⟩, counters, channels⟩ := level
  exact ⟨⟨addedA, addedB, sinceA, sinceB, same, Nat.le_succ_of_le fewA, Nat.le_succ_of_le fewB⟩,
    counters, channels⟩

/-- As long as there are no rows, both runs stand at their starts as far as rows go. -/
theorem InStep.since_none (level : InStep company startA startB 0 a b) :
    Since company startA .none a ∧ Since company startB .none b := by
  obtain ⟨⟨addedA, addedB, sinceA, sinceB, -, fewA, fewB⟩, -, -⟩ := level
  rw [Added.eq_none_of_count fewA] at sinceA
  rw [Added.eq_none_of_count fewB] at sinceB
  exact ⟨sinceA, sinceB⟩

theorem InStep.draw (level : InStep company startA startB rows a b) :
    InStep company startA startB rows
      { a with source := { a.source with drawn := a.source.drawn + 1 } }
      { b with source := { b.source with drawn := b.source.drawn + 1 } } := by
  obtain ⟨⟨addedA, addedB, sinceA, sinceB, same, few⟩, counters, channels⟩ := level
  exact ⟨⟨addedA, addedB, sinceA.draw, sinceB.draw, same, few⟩, counters, channels⟩

theorem InStep.afterCounting (level : InStep company startA startB rows a b) :
    InStep company startA startB rows (afterCounting company a) (afterCounting company b) := by
  obtain ⟨⟨addedA, addedB, sinceA, sinceB, same, few⟩, counters, channels⟩ := level
  refine ⟨⟨addedA, addedB, sinceA.afterCounting, sinceB.afterCounting, same, few⟩, ?_, channels⟩
  have writes (desk : Desk) : (Desk.afterCounting company desk).store.countersOf company.text =
      Store.setCounter company.text (nextCount (desk.store.countersOf company.text))
        (desk.store.countersOf company.text) :=
    Store.filter_setCounter_same _ _ _
  rw [writes, writes, counters]

end

end Desk

/-! ## A dispatch in step -/

namespace Dispatch

open Desk

variable {company : Uuid} {startA startB : Desk}

theorem freshId_alongside {ε : Type} (freshA : startA.FreshIds) (freshB : startB.FreshIds) :
    Alongside (InStep company startA startB 0) (freshId : Job ε Uuid) (freshId : Job ε Uuid)
      (fun id other => startA.Unused id ∧ startB.Unused other) (InStep company startA startB 0) := by
  intro a b level
  obtain ⟨sinceA, sinceB⟩ := level.since_none
  exact ⟨.done ⟨sinceA.unused freshA, sinceB.unused freshB⟩, level.draw⟩

/-- Two tickets are new at their desks, belong to the company, and are the same but for
their identifiers and creation times. -/
structure Twins (company : Uuid) (startA startB : Desk) (t u : Ticket) : Prop where
  same : (TicketRow.ofTicket t).anonymous = (TicketRow.ofTicket u).anonymous
  ownFirst : t.companyId = company
  ownSecond : u.companyId = company
  unusedFirst : startA.Unused t.id
  unusedSecond : startB.Unused u.id

/-- Apart from its identifier and its creation time, the ticket that a workflow opens for
an alert is determined by the two. -/
theorem anonymous_ticketFor (w : Workflow) (subject : Alert) (id other : Uuid)
    (time otherTime : Calendar.Instant) :
    (TicketRow.ofTicket (ticketFor w subject (.fresh id w.companyId time ""))).anonymous =
      (TicketRow.ofTicket (ticketFor w subject (.fresh other w.companyId otherTime ""))).anonymous := by
  simp only [ticketFor, Ticket.fresh, TicketRow.ofTicket, TicketRow.anonymous]

theorem openTicket_alongside (freshA : startA.FreshIds) (freshB : startB.FreshIds) {w : Workflow}
    (own : w.companyId = company) (subject : Alert) :
    Alongside (InStep company startA startB 0) (openTicket w subject) (openTicket w subject)
      (Twins company startA startB) (InStep company startA startB 0) := by
  apply Alongside.bind (freshId_alongside freshA freshB)
  · intro id other unused
    have clock : Alongside (InStep company startA startB 0) (now : Job StoreError _) now
        (fun _ _ => True) (InStep company startA startB 0) :=
      fun a b level => ⟨.done trivial, level.draw⟩
    apply Alongside.bind clock
    · intro time otherTime _
      apply Alongside.pure
      · exact ⟨anonymous_ticketFor w subject id other time otherTime, own, own, unused.1, unused.2⟩
      · exact fun _ _ level => level
    · exact fun _ _ level => level
  · exact fun _ _ level => level

theorem nextOrderNumber_alongside (intactA : startA.store.Intact) (intactB : startB.store.Intact) :
    Alongside (InStep company startA startB 0) (nextOrderNumber company) (nextOrderNumber company)
      (fun number other => number = other) (InStep company startA startB 0) := by
  have counts : Alongside (InStep company startA startB 0)
      (change fun s => s.advanceCounter company) (change fun s => s.advanceCounter company)
      (fun next other => next = other) (InStep company startA startB 0) := by
    intro a b level
    obtain ⟨sinceA, sinceB⟩ := level.since_none
    rw [run_change, run_change, Store.advanceCounter_eq (sinceA.intact intactA),
      Store.advanceCounter_eq (sinceB.intact intactB)]
    exact ⟨.done (by rw [level.counters]), level.afterCounting⟩
  apply Alongside.through
  · apply Alongside.bind counts
    · rintro next _ rfl
      have reads := @Alongside.read _ (InStep company startA startB 0)
        (fun _ => Store.readCounter next) (fun _ => Store.readCounter next) (fun _ => True)
        (fun _ _ _ => rfl) fun _ _ _ _ _ => trivial
      exact reads.weaken (fun _ _ answers => answers.1) fun _ _ level => level
    · exact fun _ _ level => level
  · exact fun _ _ level => level.channels
  · exact fun _ _ level => level

theorem companyId_ofTicket (t : Ticket) : (TicketRow.ofTicket t).companyId = t.companyId.text :=
  rfl

theorem companyId_ofOrder (order : WorkOrder) :
    (WorkOrderRow.ofOrder order).companyId = order.companyId.text :=
  rfl

theorem saveWorkOrder_alongside (intactA : startA.store.Intact) (intactB : startB.store.Intact)
    (x y : WorkOrder) (twins : Twins company startA startB x.toTicket y.toTicket)
    (sameNumber : x.number = y.number) :
    Alongside (InStep company startA startB 0) (saveWorkOrder x) (saveWorkOrder y)
      (fun _ _ => True) (InStep company startA startB 1) := by
  have sameRow : (WorkOrderRow.ofOrder x).anonymous = (WorkOrderRow.ofOrder y).anonymous := by
    simp only [WorkOrderRow.anonymous, WorkOrderRow.ofOrder, twins.same, sameNumber]
  have ownX : (WorkOrderRow.ofOrder x).companyId = company.text := by
    rw [companyId_ofOrder, twins.ownFirst]
  have ownY : (WorkOrderRow.ofOrder y).companyId = company.text := by
    rw [companyId_ofOrder, twins.ownSecond]
  apply Alongside.through
  · intro a b level
    obtain ⟨sinceA, sinceB⟩ := level.since_none
    rw [sinceA.run_saveWorkOrder intactA x twins.unusedFirst,
      sinceB.run_saveWorkOrder intactB y twins.unusedSecond]
    constructor
    · exact .done trivial
    · constructor
      · refine ⟨_, _, sinceA.afterOrder ownX, sinceB.afterOrder ownY, ?_, Nat.le_refl _,
          Nat.le_refl _⟩
        rw [Added.anonymous, List.map_singleton, sameRow]
        rfl
      · exact level.counters
      · exact level.channels
  · exact fun _ _ level => level.channels
  · exact fun _ _ level => level.more

theorem saveRequest_alongside (intactA : startA.store.Intact) (intactB : startB.store.Intact)
    (x y : Request) (twins : Twins company startA startB x.toTicket y.toTicket) :
    Alongside (InStep company startA startB 0) (saveRequest x) (saveRequest y)
      (fun _ _ => True) (InStep company startA startB 1) := by
  have ownX : (TicketRow.ofTicket x.toTicket).companyId = company.text := by
    rw [companyId_ofTicket, twins.ownFirst]
  have ownY : (TicketRow.ofTicket y.toTicket).companyId = company.text := by
    rw [companyId_ofTicket, twins.ownSecond]
  apply Alongside.through
  · intro a b level
    obtain ⟨sinceA, sinceB⟩ := level.since_none
    rw [sinceA.run_saveRequest intactA x twins.unusedFirst,
      sinceB.run_saveRequest intactB y twins.unusedSecond]
    constructor
    · exact .done trivial
    · constructor
      · refine ⟨_, _, sinceA.afterRequest ownX, sinceB.afterRequest ownY, ?_, Nat.le_refl _,
          Nat.le_refl _⟩
        rw [Added.anonymous, List.map_singleton, twins.same]
        rfl
      · exact level.counters
      · exact level.channels
  · exact fun _ _ level => level.channels
  · exact fun _ _ level => level.more

theorem alert_alongside (intactA : startA.store.Intact) (intactB : startB.store.Intact)
    (freshA : startA.FreshIds) (freshB : startB.FreshIds) {w : Workflow}
    (own : w.companyId = company) (subject : Alert) :
    Alongside (InStep company startA startB 0) (alert w subject) (alert w subject)
      (fun effect other => effect = other) (InStep company startA startB 1) := by
  unfold alert
  split
  · exact Alongside.pure rfl fun _ _ level => level.more
  · split
    · apply Alongside.bind (openTicket_alongside freshA freshB own subject)
      · intro t u twins
        rw [own]
        apply Alongside.bind (nextOrderNumber_alongside intactA intactB)
        · rintro number _ rfl
          apply Alongside.bind (saveWorkOrder_alongside intactA intactB
            { t with number := some number } { u with number := some number } twins rfl)
          · exact fun _ _ _ => Alongside.pure rfl fun _ _ level => level
          · exact fun _ _ level => level
        · exact fun _ _ level => level.more
      · exact fun _ _ level => level.more
    · apply Alongside.bind (openTicket_alongside freshA freshB own subject)
      · intro t u twins
        apply Alongside.bind (saveRequest_alongside intactA intactB ⟨t⟩ ⟨u⟩ twins)
        · exact fun _ _ _ => Alongside.pure rfl fun _ _ level => level
        · exact fun _ _ level => level
      · exact fun _ _ level => level.more
    · exact Alongside.pure rfl fun _ _ level => level.more
    · exact Alongside.pure rfl fun _ _ level => level.more

end Dispatch

/-! ## Telling the administrators -/

namespace Gateway

open Desk

/-- All that the job does is to send mail. -/
def OnlyMails (job : Job WebhookError Unit) : Prop :=
  ∀ desk : Desk, ∃ outbox, job.run desk = (.done (), { desk with outbox := outbox })

theorem onlyMails_pure : OnlyMails (pure ()) :=
  fun desk => ⟨desk.outbox, rfl⟩

theorem onlyMails_sendAll (mails : List Mail) : OnlyMails (sendAll mails) :=
  fun _ => ⟨_, rfl⟩

variable {company : Uuid} {startA startB : Desk} {rows : Nat}

/-- Mails are not part of what two runs share. -/
theorem OnlyMails.alongside {first second : Job WebhookError Unit} (mails : OnlyMails first)
    (others : OnlyMails second) :
    Alongside (InStep company startA startB rows) first second (fun _ _ => True)
      (InStep company startA startB rows) := by
  rintro a b ⟨⟨addedA, addedB, sinceA, sinceB, same⟩, counters, channels⟩
  obtain ⟨outboxA, runA⟩ := mails a
  obtain ⟨outboxB, runB⟩ := others b
  rw [runA, runB]
  constructor
  · exact .done trivial
  · exact ⟨⟨addedA, addedB, { sinceA with }, { sinceB with }, same⟩, counters, channels⟩

/-- Whether and whom the mails to the administrators reach makes no difference to a run. -/
theorem notifyAdmins_alongside (owner : Uuid) (alert : Alert) (error : String) :
    Alongside (InStep company startA startB rows) (notifyAdmins owner alert error)
      (notifyAdmins owner alert error) (fun _ _ => True) (InStep company startA startB rows) := by
  have same : ∀ a b, InStep company startA startB rows a b → a.outages = b.outages :=
    fun _ _ level => level.channels
  have keep : ∀ a b, InStep company startA startB rows a b →
      InStep company startA startB rows a b := fun _ _ level => level
  have named (name other : String) : Alongside (InStep company startA startB rows)
      (pure name : Job WebhookError String) (pure other) (fun _ _ => True)
      (InStep company startA startB rows) := Alongside.pure trivial keep
  unfold notifyAdmins
  apply Alongside.bind (Alongside.attempt_read same)
  · intro known other _
    -- Whatever name the company goes by at each desk, the rest is the same.
    rcases known with error | _ | found <;> rcases other with error' | _ | found'
    all_goals
      apply Alongside.bind (named _ _)
      · intro name other _
        apply Alongside.bind (Alongside.attempt_read same)
        · intro admins others _
          apply OnlyMails.alongside
          · split
            · exact onlyMails_pure
            · exact onlyMails_sendAll _
          · split
            · exact onlyMails_pure
            · exact onlyMails_sendAll _
        · exact keep
      · exact keep
  · exact keep

theorem execute_alongside (intactA : startA.store.Intact) (intactB : startB.store.Intact)
    (freshA : startA.FreshIds) (freshB : startB.FreshIds) (timeout : Nat) {w : Workflow}
    (own : w.companyId = company) (alert : Alert) :
    Alongside (InStep company startA startB 0) (execute timeout company w alert)
      (execute timeout company w alert) (fun result other => result = other)
      (InStep company startA startB 1) := by
  have gives (failure : String) : Alongside (InStep company startA startB 1)
      (giveUp company alert failure) (giveUp company alert failure)
      (fun result other => result = other) (InStep company startA startB 1) := by
    apply Alongside.bind (notifyAdmins_alongside company alert failure)
    · exact fun _ _ _ => Alongside.fail _ fun _ _ level => level
    · exact fun _ _ level => level
  apply Alongside.bind
    (Alongside.supervise (Dispatch.alert_alongside intactA intactB freshA freshB own alert))
  · intro outcome other alike
    rw [← alike.eq]
    split
    · exact Alongside.pure rfl fun _ _ level => level
    · exact gives _
    · exact gives _
  · exact fun _ _ level => level

end Gateway

end Caretaker
