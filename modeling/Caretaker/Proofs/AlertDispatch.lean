import Caretaker.Proofs.Desk.Preserving
import Caretaker.Webhook.Gateway

/-!
# How the dispatch of an alert ends

A workflow that acts on an alert opens a work order or a request, or leaves everything
alone.  A work order takes a number, and the counter behind the numbers is moved on in a
write of its own.  When the work order cannot be saved afterwards, its number stays used;
apart from that, a dispatch that breaks off has changed nothing in the store.

The gateway answers with what the dispatch did.  A dispatch that broke off is reported as
a failed execution, after mails to the administrators that touch neither the store nor
the limiter.
-/

namespace Caretaker

open Job

namespace Dispatch

/-- The ticket that the desk would open next. -/
def nextTicket (w : Workflow) (subject : Alert) (desk : Desk) : Ticket :=
  ticketFor w subject
    (.fresh (desk.source.id desk.source.drawn) w.companyId
      (desk.source.now (desk.source.drawn + 1)) "")

/-- The desk after a ticket was opened: its identifier and its creation time are drawn. -/
def opened (desk : Desk) : Desk :=
  { desk with source := { desk.source with drawn := desk.source.drawn + 2 } }

theorem run_openTicket (w : Workflow) (subject : Alert) (desk : Desk) :
    (openTicket w subject).run desk = (.done (nextTicket w subject desk), opened desk) :=
  rfl

/-- Taking a number moves the counter on and reads it, or breaks off; and only the reading
breaks off after the counter was moved. -/
theorem nextOrderNumber_cases (company : Uuid) (desk : Desk) :
    (∃ next counted number, desk.store.advanceCounter company = .ok (next, counted) ∧
      Store.readCounter next = .ok number ∧
      (Desk.nextOrderNumber company).run desk =
        (.done number, { desk with store := counted })) ∨
    (∃ next counted, desk.store.advanceCounter company = .ok (next, counted) ∧
      (∀ n, next ≠ .int n) ∧
      (Desk.nextOrderNumber company).BreaksOff desk { desk with store := counted }) ∨
    (Desk.nextOrderNumber company).BreaksOff desk desk := by
  unfold Desk.nextOrderNumber
  rcases through_cases .nextOrderNumber
    (do let next ← change fun s => s.advanceCounter company
        read fun _ => Store.readCounter next) desk with same | breaks
  · cases moved : desk.store.advanceCounter company with
    | error error =>
        right; right
        constructor
        · rw [same, run_bind, run_change, moved, isDone]
        · rw [same, run_bind, run_change, moved]
    | ok result =>
        obtain ⟨next, counted⟩ := result
        cases content : Store.readCounter next with
        | ok number =>
            left
            refine ⟨next, counted, number, rfl, content, ?_⟩
            rw [same, run_bind, run_change, moved]
            dsimp only
            rw [run_read, content]
        | error error =>
            right; left
            have unread : ∀ n, next ≠ .int n := by
              rintro n rfl
              cases content
            refine ⟨next, counted, rfl, unread, ?_⟩
            constructor
            · rw [same, run_bind, run_change, moved]
              dsimp only
              rw [run_read, content, isDone]
            · rw [same, run_bind, run_change, moved]
              dsimp only
              rw [run_read, content]
  · exact .inr (.inr breaks)

/-- How running a workflow on an alert ends, and the desk that it leaves. -/
inductive Ends (w : Workflow) (subject : Alert) (desk : Desk) :
    Outcome StoreError Effect × Desk → Prop where
  | unmet (notMet : w.matchesSubject (.alert subject) = false) :
      Ends w subject desk (.done .conditionsNotMet, desk)
  | idle (met : w.matchesSubject (.alert subject) = true)
      (noOrder : w.action.taskAction ≠ some .createWorkOrder)
      (noRequest : w.action.taskAction ≠ some .createRequest) :
      Ends w subject desk (.done .nothing, desk)
  | ordered {next : Cell} {counted s' : Store} {number : String}
      (met : w.matchesSubject (.alert subject) = true)
      (selected : w.action.taskAction = some .createWorkOrder)
      (moved : desk.store.advanceCounter w.companyId = .ok (next, counted))
      (content : Store.readCounter next = .ok number)
      (saved : counted.saveWorkOrder { nextTicket w subject desk with number := some number } =
        .ok s') :
      Ends w subject desk (.done .applied, { opened desk with store := s' })
  | requested {s' : Store} (met : w.matchesSubject (.alert subject) = true)
      (selected : w.action.taskAction = some .createRequest)
      (saved : desk.store.saveRequest ⟨nextTicket w subject desk⟩ = .ok s') :
      Ends w subject desk (.done .applied, { opened desk with store := s' })
  | brokenOff {outcome : Outcome StoreError Effect} (unfinished : isDone outcome = false) :
      Ends w subject desk (outcome, opened desk)
  | brokenOffCounting {outcome : Outcome StoreError Effect} {next : Cell} {counted : Store}
      (unfinished : isDone outcome = false)
      (moved : desk.store.advanceCounter w.companyId = .ok (next, counted)) :
      Ends w subject desk (outcome, { opened desk with store := counted })

variable {w : Workflow} {subject : Alert} {desk left : Desk}

theorem Ends.of_breaksOff {job : Job StoreError Effect} (breaks : job.BreaksOff desk (opened desk)) :
    Ends w subject desk (job.run desk) := by
  rw [← Prod.eta (job.run desk), breaks.leaves]
  exact .brokenOff breaks.unfinished

theorem Ends.of_breaksOff_counting {job : Job StoreError Effect} {next : Cell} {counted : Store}
    (moved : desk.store.advanceCounter w.companyId = .ok (next, counted))
    (breaks : job.BreaksOff desk { opened desk with store := counted }) :
    Ends w subject desk (job.run desk) := by
  rw [← Prod.eta (job.run desk), breaks.leaves]
  exact .brokenOffCounting breaks.unfinished moved

theorem order_ends (met : w.matchesSubject (.alert subject) = true)
    (selected : w.action.taskAction = some .createWorkOrder) :
    Ends w subject desk
      ((do
        let ticket ← openTicket w subject
        let number ← Desk.nextOrderNumber w.companyId
        Desk.saveWorkOrder { ticket with number := some number }
        return .applied : Job StoreError Effect).run desk) := by
  have opens := run_openTicket w subject desk
  rcases nextOrderNumber_cases w.companyId (opened desk) with
    ⟨next, counted, number, moved, content, counts⟩ | ⟨next, counted, moved, -, breaks⟩ | breaks
  · rcases write_cases .saveWorkOrder
      (fun s => s.saveWorkOrder { nextTicket w subject desk with number := some number })
      { opened desk with store := counted } with ⟨s', saved, saves⟩ | breaks
    · rw [run_bind, opens]
      dsimp only
      rw [run_bind, counts]
      dsimp only
      rw [run_bind, Desk.saveWorkOrder, saves]
      exact .ordered met selected moved content saved
    · exact .of_breaksOff_counting moved (.after opens (.after counts (breaks.bind _)))
  · exact .of_breaksOff_counting moved (.after opens (breaks.bind _))
  · exact .of_breaksOff (.after opens (breaks.bind _))

theorem request_ends (met : w.matchesSubject (.alert subject) = true)
    (selected : w.action.taskAction = some .createRequest) :
    Ends w subject desk
      ((do
        let ticket ← openTicket w subject
        Desk.saveRequest ⟨ticket⟩
        return .applied : Job StoreError Effect).run desk) := by
  have opens := run_openTicket w subject desk
  rcases write_cases .saveRequest (fun s => s.saveRequest ⟨nextTicket w subject desk⟩)
    (opened desk) with ⟨s', saved, saves⟩ | breaks
  · rw [run_bind, opens]
    dsimp only
    rw [run_bind, Desk.saveRequest, saves]
    exact .requested met selected saved
  · exact .of_breaksOff (.after opens (breaks.bind _))

/-- A dispatch of an alert ends in one of the ways above. -/
theorem alert_ends (w : Workflow) (subject : Alert) (desk : Desk) :
    Ends w subject desk ((alert w subject).run desk) := by
  unfold alert
  cases met : w.matchesSubject (.alert subject) with
  | false => exact .unmet met
  | true =>
      rw [Bool.not_true, if_neg Bool.false_ne_true]
      cases selected : w.action.taskAction with
      | none => exact .idle met (by simp [selected]) (by simp [selected])
      | some task =>
          cases task with
          | createWorkOrder => exact order_ends met selected
          | createRequest => exact request_ends met selected
          | setAssetStatus => exact .idle met (by simp [selected]) (by simp [selected])

end Dispatch

/-! ## Giving up -/

namespace Gateway

/-- The store and the limiter of a desk. -/
def ledger (desk : Desk) : Store × Limiter Float :=
  (desk.store, desk.limiter)

theorem sendAll_preserves (mails : List Mail) : Preserves ledger (sendAll mails) :=
  fun _ => rfl

theorem sendAll_neverFails (mails : List Mail) : (sendAll mails).NeverFails := by
  rintro desk error ⟨⟩

variable (company : Uuid) (alert : Alert) (failure : String)

theorem notifyAdmins_preserves : Preserves ledger (notifyAdmins company alert failure) := by
  unfold notifyAdmins
  apply Preserves.bind (Preserves.attempt (Preserves.of_looks (Looks.read _ _)))
  intro known
  -- Whatever name the company goes by, the rest is the same.
  rcases known with error | _ | found
  all_goals
    apply Preserves.bind (Preserves.pure _)
    intro name
    apply Preserves.bind (Preserves.attempt (Preserves.of_looks (Looks.read _ _)))
    intro admins
    split
    · exact Preserves.pure _
    · exact sendAll_preserves _

theorem notifyAdmins_neverFails : (notifyAdmins company alert failure).NeverFails := by
  unfold notifyAdmins
  apply NeverFails.bind (NeverFails.attempt _)
  intro known
  rcases known with error | _ | found
  all_goals
    apply NeverFails.bind (NeverFails.pure _)
    intro name
    apply NeverFails.bind (NeverFails.attempt _)
    intro admins
    split
    · exact NeverFails.pure _
    · exact sendAll_neverFails _

/-- A call ended with a failed execution, or waits for ever while the administrators are
told.  The store and the limiter are those of the desk that the dispatch left. -/
structure GivenUp (result : Outcome WebhookError WebhookResult × Desk) (left : Desk) : Prop where
  reported : (∃ reason, result.1 = .failed (.execution reason)) ∨ result.1 = .stalled
  store : result.2.store = left.store
  limiter : result.2.limiter = left.limiter

theorem giveUp_givenUp (desk : Desk) : GivenUp ((giveUp company alert failure).run desk) desk := by
  have kept := notifyAdmins_preserves company alert failure desk
  have never := notifyAdmins_neverFails company alert failure desk
  rw [giveUp, run_bind]
  rcases ended : (notifyAdmins company alert failure).run desk with ⟨value | error | _, desk'⟩
  · rw [ended] at kept
    exact ⟨.inl ⟨failure, rfl⟩, congrArg Prod.fst kept, congrArg Prod.snd kept⟩
  · exact absurd (congrArg Prod.fst ended) (never error)
  · rw [ended] at kept
    exact ⟨.inr rfl, congrArg Prod.fst kept, congrArg Prod.snd kept⟩

variable {w : Workflow} {desk left : Desk} (timeout : Nat)

theorem run_execute_of_done {effect : Effect}
    (ended : (Dispatch.alert w alert).run desk = (.done effect, left)) :
    (execute timeout company w alert).run desk = (.done (.executed w.id effect), left) := by
  rw [execute, run_bind, run_supervise, ended]
  rfl

theorem execute_givenUp {outcome : Outcome StoreError Effect}
    (ended : (Dispatch.alert w alert).run desk = (outcome, left))
    (unfinished : isDone outcome = false) :
    GivenUp ((execute timeout company w alert).run desk) left := by
  rw [execute, run_bind, run_supervise, ended]
  cases outcome with
  | done effect => cases unfinished
  | failed error => exact giveUp_givenUp company alert _ left
  | stalled => exact giveUp_givenUp company alert _ left

end Gateway

end Caretaker
