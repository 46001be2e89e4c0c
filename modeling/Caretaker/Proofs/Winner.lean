import Caretaker.Proofs.Gates
import Caretaker.Proofs.Operations
import Caretaker.Proofs.Store.Candidates

/-!
# One workflow acts

Whenever the candidates for a subject can be read, the engine selects the winner among
the eligible workflows of the store, or nothing when none is eligible.  An event then
does what the dispatch of the winner does, or leaves everything alone; the same is true
of an alert once its call was let in.

A dispatch checks the conditions once more.  Since the winner was selected because its
conditions hold, and nothing came between, this check never turns it away.
-/

namespace Caretaker

open Calendar Job

/-! ## What a dispatch results in -/

/-- Whatever the job results in, at whatever desk, has a property. -/
def Job.Gives {ε α : Type} (job : Job ε α) (promise : α → Prop) : Prop :=
  ∀ (desk : Desk) (value : α), (job.run desk).1 = .done value → promise value

namespace Job.Gives

variable {ε δ α β : Type} {promise : α → Prop} {further : β → Prop}

/-- What a job gives it promises at every desk, so the invariant says nothing. -/
theorem gives_iff {job : Job ε α} : job.Gives promise ↔ Maintains (fun _ => True) job promise := by
  constructor
  · exact fun gives desk _ => ⟨trivial, gives desk⟩
  · exact fun maintains desk => (maintains desk trivial).2

theorem pure {value : α} (kept : promise value) : (Pure.pure value : Job ε α).Gives promise :=
  gives_iff.mpr (Maintains.pure kept)

theorem fail (error : ε) : (Job.fail error : Job ε α).Gives promise :=
  gives_iff.mpr (Maintains.fail error)

theorem bind {first : Job ε α} {next : α → Job ε β} (before : first.Gives promise)
    (after : ∀ value, promise value → (next value).Gives further) :
    (first >>= next).Gives further :=
  gives_iff.mpr (Maintains.bind (gives_iff.mp before) fun value kept =>
    gives_iff.mp (after value kept))

/-- The last part of a job can give something whatever the first results in. -/
theorem last {first : Job ε α} {next : α → Job ε β} (after : ∀ value, (next value).Gives further) :
    (first >>= next).Gives further :=
  bind (fun _ _ _ => trivial : first.Gives fun _ => True) fun value _ => after value

theorem attempt {job : Job ε α} (gives : job.Gives promise) :
    (job.attempt : Job δ (Except ε α)).Gives fun result =>
      ∀ value, result = .ok value → promise value :=
  gives_iff.mpr (Maintains.attempt (gives_iff.mp gives))

theorem supervise {job : Job ε α} (gives : job.Gives promise) :
    (job.supervise : Job δ (Outcome ε α)).Gives fun outcome =>
      ∀ value, outcome = .done value → promise value :=
  gives_iff.mpr (Maintains.supervise (gives_iff.mp gives))

end Job.Gives

namespace Dispatch

variable {w : Workflow}

/-- Saving a subject is reported as applied or as an error. -/
theorem saved_gives {σ : Type} (subject : σ) (save : Job StoreError Unit) :
    (saved subject save).Gives fun answer => answer.1 ≠ .ok .conditionsNotMet := by
  apply Gives.last
  intro result
  split <;> exact Gives.pure (by rintro ⟨⟩)

theorem workOrder_gives {order : WorkOrder} (met : w.matchesSubject (.workOrder order) = true) :
    (workOrder w order).Gives fun answer => answer.1 ≠ .ok .conditionsNotMet := by
  unfold workOrder
  rw [met, if_neg (by decide)]
  split
  · exact Gives.pure (by rintro ⟨⟩)
  · exact saved_gives _ _

theorem request_gives {subject : Request} (met : w.matchesSubject (.request subject) = true) :
    (request w subject).Gives fun answer => answer.1 ≠ .ok .conditionsNotMet := by
  unfold request
  rw [met, if_neg (by decide)]
  split
  · exact Gives.pure (by rintro ⟨⟩)
  · exact saved_gives _ _

theorem purchaseOrder_gives {order : PurchaseOrder}
    (met : w.matchesSubject (.purchaseOrder order) = true) :
    (purchaseOrder w order).Gives fun answer => answer.1 ≠ .ok .conditionsNotMet := by
  unfold purchaseOrder
  rw [met, if_neg (by decide)]
  split
  · exact Gives.pure (by rintro ⟨⟩)
  · exact saved_gives _ _

theorem part_gives {subject : Part} (met : w.matchesSubject (.part subject) = true) :
    (part w subject).Gives fun effect => effect ≠ .conditionsNotMet := by
  unfold part
  rw [met, if_neg (by decide)]
  exact Gives.pure (by rintro ⟨⟩)

theorem task_gives {subject : Task} (met : w.matchesSubject (.task subject) = true) :
    (task w subject).Gives fun effect => effect ≠ .conditionsNotMet := by
  unfold task
  rw [met, if_neg (by decide)]
  split
  · apply Gives.last
    intro found
    split
    · exact Gives.pure (by rintro ⟨⟩)
    · apply Gives.last
      exact fun _ => Gives.pure (by rintro ⟨⟩)
  · exact Gives.pure (by rintro ⟨⟩)

theorem alert_gives {subject : Alert} (met : w.matchesSubject (.alert subject) = true) :
    (alert w subject).Gives fun effect => effect ≠ .conditionsNotMet := by
  unfold alert
  rw [met, if_neg (by decide)]
  split
  · apply Gives.last
    intro ticket
    apply Gives.last
    intro number
    apply Gives.last
    exact fun _ => Gives.pure (by rintro ⟨⟩)
  · apply Gives.last
    intro ticket
    apply Gives.last
    exact fun _ => Gives.pure (by rintro ⟨⟩)
  · exact Gives.pure (by rintro ⟨⟩)
  · exact Gives.pure (by rintro ⟨⟩)

end Dispatch

/-! ## Selecting -/

namespace Engine

theorem unchanged_gives {σ : Type} (subject : σ) {dispatch : Job StoreError Effect}
    (gives : dispatch.Gives fun effect => effect ≠ .conditionsNotMet) :
    (unchanged subject dispatch).Gives fun answer => answer.1 ≠ .ok .conditionsNotMet := by
  refine Gives.bind (Gives.attempt gives) fun result kept => Gives.pure ?_
  rintro rfl
  exact kept .conditionsNotMet rfl rfl

variable {desk : Desk} {company : Uuid} {subject : Subject}

/-- When its candidates can be read, the engine selects the winner and leaves the desk
alone. -/
theorem run_select (reachable : desk.store.Reachable fun _ => True)
    (readable : (Desk.matchWorkflows company subject.trigger).Succeeds desk) :
    ∃ selected, (select company subject.trigger subject).run desk = (.done selected, desk) ∧
      (∀ w, selected = some w ↔ desk.store.Winner company subject w) ∧
      (selected = none ↔ ∀ w, ¬desk.store.Eligible company subject w) := by
  obtain ⟨candidates, answer, run⟩ := run_read_of_succeeds readable
  obtain ⟨entries, holds, -⟩ := reachable.sound.held
  have intact := reachable.sound.intact
  refine ⟨Workflow.firstMatch candidates subject, ?_, ?_, ?_⟩
  · rw [select, run_bind, Desk.matchWorkflows, run]
    rfl
  · exact fun w => holds.firstMatch_eq_some_iff intact answer
  · exact holds.firstMatch_eq_none_iff intact answer

/-- What an event answers after a workflow was dispatched. -/
def report {σ : Type} (w : Workflow) (answer : Except StoreError Effect × σ) : Report σ :=
  (answer.1.map fun effect => some ⟨w.id, effect⟩, answer.2)

/-- The event is left to the winner.  If there is one, the event does what the dispatch of
the winner does and names it; if there is none, nothing happens.  An answer without a
workflow means that none was eligible, and an answer with one never says that its
conditions were not met. -/
structure LeavesToWinner {σ : Type} (desk : Desk) (company : Uuid) (view : Subject) (subject : σ)
    (dispatch : Workflow → Job StoreError (Except StoreError Effect × σ))
    (event : Job StoreError (Report σ)) : Prop where
  acts : ∀ w, desk.store.Winner company view w →
    event.run desk = (dispatch w >>= fun answer => pure (report w answer)).run desk
  rests : (∀ w, ¬desk.store.Eligible company view w) →
    event.run desk = (.done (.ok none, subject), desk)
  silent : ∀ after, (event.run desk).1 = .done (.ok none, after) →
    ∀ w, ¬desk.store.Eligible company view w
  named : ∀ fired after, (event.run desk).1 = .done (.ok (some fired), after) →
    fired.effect ≠ .conditionsNotMet ∧
      ∃ w, desk.store.Winner company view w ∧ w.id = fired.workflowId

/-- Every answer with a report is the report on an answer of the dispatch. -/
theorem report_gives {σ : Type} (w : Workflow)
    {dispatch : Job StoreError (Except StoreError Effect × σ)}
    {promise : Except StoreError Effect × σ → Prop} (gives : dispatch.Gives promise) :
    (dispatch >>= fun answer => pure (report w answer)).Gives
      fun reported => ∃ answer, promise answer ∧ report w answer = reported :=
  Gives.bind gives fun answer kept => Gives.pure ⟨answer, kept, rfl⟩

/-- What the event does once a workflow was selected or none was. -/
theorem run_onSubject {σ : Type} (subject : σ) {view : Subject}
    (dispatch : Workflow → Job StoreError (Except StoreError Effect × σ))
    {selected : Option Workflow}
    (run : (select company view.trigger view).run desk = (.done selected, desk)) :
    (onSubject company subject view dispatch).run desk =
      (match selected with
        | none => pure (.ok none, subject)
        | some w => dispatch w >>= fun answer => pure (report w answer) :
        Job StoreError (Report σ)).run desk := by
  have attempted : ((select company view.trigger view).attempt : Job StoreError _).run desk =
      (.done (.ok selected), desk) := by
    rw [run_attempt, run]
  rw [onSubject, run_bind, attempted]
  cases selected <;> rfl

theorem onSubject_leavesToWinner {σ : Type} {subject : σ} {view : Subject}
    {dispatch : Workflow → Job StoreError (Except StoreError Effect × σ)}
    (reachable : desk.store.Reachable fun _ => True)
    (readable : (Desk.matchWorkflows company view.trigger).Succeeds desk)
    (gives : ∀ w, w.matchesSubject view = true →
      (dispatch w).Gives fun answer => answer.1 ≠ .ok .conditionsNotMet) :
    LeavesToWinner desk company view subject dispatch
      (onSubject company subject view dispatch) := by
  obtain ⟨selected, run, winner, noneEligible⟩ := run_select reachable readable
  have settles := run_onSubject subject dispatch run
  cases selected with
  | none =>
      have absent := noneEligible.mp rfl
      constructor
      · intro w wins
        exact absurd wins.eligible (absent w)
      · exact fun _ => settles
      · exact fun _ _ => absent
      · intro fired after done
        rw [settles] at done
        cases done
  | some w =>
      have wins := (winner w).mp rfl
      have reported := report_gives w (gives w (Workflow.matchesSubject_iff.mpr wins.eligible.met))
      constructor
      · intro other otherWins
        have same : w = other := Option.some.inj ((winner other).mpr otherWins)
        rw [← same]
        exact settles
      · intro absent
        exact absurd wins.eligible (absent w)
      · intro after done
        rw [settles] at done
        obtain ⟨⟨result, after'⟩, -, same⟩ := reported desk _ done
        cases result <;> cases same
      · intro fired after done
        rw [settles] at done
        obtain ⟨⟨result, after'⟩, allowed, same⟩ := reported desk _ done
        cases result with
        | error error => cases same
        | ok effect =>
            cases same
            exact ⟨fun notMet => allowed (congrArg Except.ok notMet), w, wins, rfl⟩

end Engine

/-! ## Alerts -/

namespace Gateway

theorem execute_gives {timeout : Nat} {company : Uuid} {w : Workflow} {alert : Alert}
    (met : w.matchesSubject (.alert alert) = true) :
    (execute timeout company w alert).Gives fun result =>
      ∃ effect, effect ≠ .conditionsNotMet ∧ result = .executed w.id effect := by
  have giveUp_gives (failure : String) : (giveUp company alert failure).Gives fun result =>
      ∃ effect, effect ≠ .conditionsNotMet ∧ result = .executed w.id effect :=
    Gives.last fun _ => Gives.fail _
  refine Gives.bind (Gives.supervise (Dispatch.alert_gives met)) fun outcome kept => ?_
  cases outcome with
  | done effect => exact Gives.pure ⟨effect, kept effect rfl, rfl⟩
  | failed error => exact giveUp_gives _
  | stalled => exact giveUp_gives _

/-- A call that was let in is left to the winner.  If there is one, it is executed; if
there is none, nothing happens.  An answer without a workflow means that none was
eligible, and an answer with one never says that its conditions were not met. -/
structure LeavesToWinner (desk : Desk) (timeout : Nat) (apiKey : Option String)
    (payload : List UInt8) (config : WebhookConfig) (alert : Alert) (later : Desk) : Prop where
  acts : ∀ w, desk.store.Winner config.companyId (.alert alert) w →
    (handle timeout apiKey payload).run desk =
      (execute timeout config.companyId w alert).run later
  rests : (∀ w, ¬desk.store.Eligible config.companyId (.alert alert) w) →
    (handle timeout apiKey payload).run desk = (.done .noMatch, later)
  silent : ((handle timeout apiKey payload).run desk).1 = .done .noMatch →
    ∀ w, ¬desk.store.Eligible config.companyId (.alert alert) w
  named : ∀ id effect, ((handle timeout apiKey payload).run desk).1 = .done (.executed id effect) →
    effect ≠ .conditionsNotMet ∧
      ∃ w, desk.store.Winner config.companyId (.alert alert) w ∧ w.id = id

/-- A call that was let in goes on with the winner at the desk that it was called at, or
with none when no workflow is eligible there. -/
theorem run_handle_of_letIn {desk later : Desk} {apiKey : Option String} {payload : List UInt8}
    {config : WebhookConfig} {alert : Alert} (timeout : Nat)
    (reachable : desk.store.Reachable fun _ => True)
    (entered : (letIn apiKey payload).run desk = (.done (config, alert), later))
    (readable : (Desk.matchWorkflows config.companyId .webhook).Succeeds desk) :
    ∃ selected, (handle timeout apiKey payload).run desk =
        (settle timeout config.companyId alert selected).run later ∧
      (∀ w, selected = some w ↔ desk.store.Winner config.companyId (.alert alert) w) ∧
      (selected = none ↔ ∀ w, ¬desk.store.Eligible config.companyId (.alert alert) w) := by
  obtain ⟨source, limiter, left⟩ := letIn_leaves apiKey payload desk
  rw [entered] at left
  dsimp only at left
  -- Asking for a token changed nothing that the selection looks at.
  have sameStore : later.store = desk.store := by rw [left]
  have sameOutages : later.outages = desk.outages := by rw [left]
  have readableLater : (Desk.matchWorkflows config.companyId .webhook).Succeeds later := by
    obtain ⟨candidates, done⟩ := readable
    exact ⟨candidates, (run_read_congr sameStore sameOutages).trans done⟩
  rw [← sameStore] at reachable
  obtain ⟨selected, run, winner, noneEligible⟩ :=
    @Engine.run_select later config.companyId (.alert alert) reachable readableLater
  rw [sameStore] at winner noneEligible
  refine ⟨selected, ?_, winner, noneEligible⟩
  have trigger : (Subject.alert alert).trigger = .webhook := rfl
  rw [trigger] at run
  rw [handle_eq, run_bind, entered]
  dsimp only
  rw [run_bind, run_mapError, run]

theorem handle_leavesToWinner {desk later : Desk} {timeout : Nat} {apiKey : Option String}
    {payload : List UInt8} {config : WebhookConfig} {alert : Alert}
    (reachable : desk.store.Reachable fun _ => True)
    (entered : (letIn apiKey payload).run desk = (.done (config, alert), later))
    (readable : (Desk.matchWorkflows config.companyId .webhook).Succeeds desk) :
    LeavesToWinner desk timeout apiKey payload config alert later := by
  obtain ⟨selected, settles, winner, noneEligible⟩ :=
    run_handle_of_letIn timeout reachable entered readable
  cases selected with
  | none =>
      have absent := noneEligible.mp rfl
      constructor
      · intro w wins
        exact absurd wins.eligible (absent w)
      · exact fun _ => settles
      · exact fun _ => absent
      · intro id effect done
        rw [settles] at done
        cases done
  | some w =>
      have wins := (winner w).mp rfl
      have met := Workflow.matchesSubject_iff.mpr wins.eligible.met
      constructor
      · intro other otherWins
        have same : w = other := Option.some.inj ((winner other).mpr otherWins)
        rw [← same]
        exact settles
      · intro absent
        exact absurd wins.eligible (absent w)
      · intro done
        rw [settles] at done
        obtain ⟨effect, -, same⟩ := execute_gives met later _ done
        cases same
      · intro id effect done
        rw [settles] at done
        obtain ⟨effect', allowed, same⟩ := execute_gives met later _ done
        cases same
        exact ⟨allowed, w, wins, rfl⟩

end Gateway

/-! ## All ways to set a workflow off -/

namespace Desk

/-- For every company and every subject whose candidates can be read, the winner is
selected, or nothing when no workflow is eligible; and every way to set a workflow off is
left to the winner. -/
structure WinnerActs (desk : Desk) : Prop where
  selects (company : Uuid) (subject : Subject) :
    (matchWorkflows company subject.trigger).Succeeds desk →
      (∀ w, ((Engine.select company subject.trigger subject).run desk).1 = .done (some w) ↔
        desk.store.Winner company subject w) ∧
      (((Engine.select company subject.trigger subject).run desk).1 = .done none ↔
        ∀ w, ¬desk.store.Eligible company subject w)
  workOrder (order : WorkOrder) : (matchWorkflows order.companyId .workOrder).Succeeds desk →
    Engine.LeavesToWinner desk order.companyId (.workOrder order) order
      (fun w => Dispatch.workOrder w order) (Engine.onWorkOrder order)
  request (request : Request) : (matchWorkflows request.companyId .request).Succeeds desk →
    Engine.LeavesToWinner desk request.companyId (.request request) request
      (fun w => Dispatch.request w request) (Engine.onRequest request)
  purchaseOrder (order : PurchaseOrder) :
    (matchWorkflows order.companyId .purchaseOrder).Succeeds desk →
      Engine.LeavesToWinner desk order.companyId (.purchaseOrder order) order
        (fun w => Dispatch.purchaseOrder w order) (Engine.onPurchaseOrder order)
  part (part : Part) : (matchWorkflows part.companyId .part).Succeeds desk →
    Engine.LeavesToWinner desk part.companyId (.part part) part
      (fun w => Engine.unchanged part (Dispatch.part w part)) (Engine.onPart part)
  task (company : Uuid) (task : Task) : (matchWorkflows company .task).Succeeds desk →
    Engine.LeavesToWinner desk company (.task task) task
      (fun w => Engine.unchanged task (Dispatch.task w task)) (Engine.onTask company task)
  alert (timeout : Nat) {apiKey : Option String} {payload : List UInt8} {config : WebhookConfig}
    {alert : Alert} {later : Desk} :
    (Gateway.letIn apiKey payload).run desk = (.done (config, alert), later) →
      (matchWorkflows config.companyId .webhook).Succeeds desk →
        Gateway.LeavesToWinner desk timeout apiKey payload config alert later
  turnedAway (timeout : Nat) {apiKey : Option String} {payload : List UInt8} :
    ¬(Gateway.letIn apiKey payload).Succeeds desk →
      ¬(Gateway.handle timeout apiKey payload).Succeeds desk
  gates (apiKey : Option String) (payload : List UInt8) : ∃ source limiter,
    ((Gateway.letIn apiKey payload).run desk).2 =
      { desk with source := source, limiter := limiter }

/-- At every desk with a reachable store, at most the winner acts. -/
theorem winnerActs {desk : Desk} (reachable : desk.store.Reachable fun _ => True) :
    desk.WinnerActs where
  selects company subject readable := by
    obtain ⟨selected, run, winner, noneEligible⟩ := Engine.run_select reachable readable
    rw [run]
    constructor
    · intro w
      rw [← winner, Outcome.done.injEq]
    · rw [← noneEligible, Outcome.done.injEq]
  workOrder order readable :=
    Engine.onSubject_leavesToWinner reachable readable fun _ met => Dispatch.workOrder_gives met
  request request readable :=
    Engine.onSubject_leavesToWinner reachable readable fun _ met => Dispatch.request_gives met
  purchaseOrder order readable :=
    Engine.onSubject_leavesToWinner reachable readable fun _ met => Dispatch.purchaseOrder_gives met
  part part readable :=
    Engine.onSubject_leavesToWinner reachable readable fun _ met =>
      Engine.unchanged_gives part (Dispatch.part_gives met)
  task company task readable :=
    Engine.onSubject_leavesToWinner reachable readable fun _ met =>
      Engine.unchanged_gives task (Dispatch.task_gives met)
  alert timeout _ _ _ _ _ entered readable :=
    Gateway.handle_leavesToWinner reachable entered readable
  turnedAway timeout apiKey payload refused := by
    rintro ⟨result, done⟩
    rw [Gateway.handle_eq, run_bind] at done
    rcases ended : (Gateway.letIn apiKey payload).run desk with ⟨entry | error | _, later⟩
    · exact refused ⟨entry, congrArg Prod.fst ended⟩
    · rw [ended] at done
      cases done
    · rw [ended] at done
      cases done
  gates apiKey payload := Gateway.letIn_leaves apiKey payload desk

/-- One of the workflows for the work orders of a company. -/
def rival (id : Nat) (createdAt : Instant) (conditions : List Condition) : Workflow where
  id := Uuid.ofNat id
  companyId := Uuid.ofNat 7
  title := "Rival"
  trigger := .workOrder
  conditions
  action := .empty
  enabled := true
  createdAt
  updatedAt := createdAt

def urgentWork : Workflow :=
  rival 3 (newYear 2024 (by decide)) [{ Condition.empty with priority := some .high }]

def allWork : Workflow :=
  rival 2 (newYear 2025 (by decide)) []

def openWork : Workflow :=
  rival 1 (newYear 2026 (by decide)) [{ Condition.empty with workOrderStatus := some .opened }]

/-- The entry of a rival. -/
def rivalEntry (w : Workflow) : Entry :=
  ⟨fun i => Uuid.ofNat (10 * w.id.value + i), w⟩

/-- The three rivals, the oldest first. -/
def rivals : List Entry :=
  [rivalEntry urgentWork, rivalEntry allWork, rivalEntry openWork]

/-- A desk with the rivals. -/
def attended : Desk :=
  { blank (newYear 2026 isDate_newYear2026) with store := .ofEntries rivals }

/-- A work order of the company, open and not urgent. -/
def attendedOrder : WorkOrder :=
  { Ticket.fresh (Uuid.ofNat 9) (Uuid.ofNat 7) (newYear 2026 isDate_newYear2026) "Lamp" with
    number := none }

theorem reachable_attended : attended.store.Reachable fun _ => True := by
  have first : Store.empty.addWorkflow (rivalEntry urgentWork).rowId urgentWork =
      .ok (.ofEntries [rivalEntry urgentWork]) := rfl
  have second : (Store.ofEntries [rivalEntry urgentWork]).addWorkflow (rivalEntry allWork).rowId
      allWork = .ok (.ofEntries [rivalEntry urgentWork, rivalEntry allWork]) := rfl
  have third : (Store.ofEntries [rivalEntry urgentWork, rivalEntry allWork]).addWorkflow
      (rivalEntry openWork).rowId openWork = .ok attended.store := rfl
  exact ((Store.Reachable.empty.step (.addWorkflow first fun _ _ => trivial)).step
    (.addWorkflow second fun _ _ => trivial)).step (.addWorkflow third fun _ _ => trivial)

theorem workflowsFor_attended : attended.store.workflowsFor (Uuid.ofNat 7) .workOrder =
    .ok [urgentWork, allWork, openWork] := by
  have holds : attended.store.Holds rivals := Store.holds_ofEntries (by decide) (by decide)
  have legible : ∀ e ∈ rivals, ∀ t ∈ e.workflow.instants, t.Legible := by decide
  have ordered : Store.oldestEntries rivals = rivals := by
    apply Store.oldestEntries_of_pairwise
    · exact fun e member => legible e member _ (List.mem_append_left _ List.mem_cons_self)
    · decide
  apply (holds.workflowsFor_eq_ok_iff rfl).mpr
  refine ⟨fun e member _ => legible e member, by decide, ?_⟩
  show (Store.oldestEntries rivals).map _ = _
  rw [ordered]
  rfl

/-- The workflows for all work and for open work are both eligible, the older one for urgent
work is not.  The one for all work was created before the other and is selected. -/
theorem winnerActs_attended : attended.WinnerActs ∧
    ((Engine.select (Uuid.ofNat 7) .workOrder (.workOrder attendedOrder)).run attended).1 =
      .done (some allWork) ∧
    attended.store.Eligible (Uuid.ofNat 7) (.workOrder attendedOrder) openWork ∧
    ¬attended.store.Eligible (Uuid.ofNat 7) (.workOrder attendedOrder) urgentWork := by
  have acts := winnerActs reachable_attended
  obtain ⟨entries, holds, -⟩ := reachable_attended.sound.held
  have intact : attended.store.Intact := rfl
  have answer : attended.store.workflowsFor (Uuid.ofNat 7)
      (Subject.workOrder attendedOrder).trigger = .ok [urgentWork, allWork, openWork] :=
    workflowsFor_attended
  have readable : (matchWorkflows (Uuid.ofNat 7) .workOrder).Succeeds attended :=
    (succeeds_read_iff rfl).mpr ⟨_, workflowsFor_attended⟩
  have first : Workflow.firstMatch [urgentWork, allWork, openWork] (.workOrder attendedOrder) =
      some allWork := rfl
  have wins := (holds.firstMatch_eq_some_iff intact answer).mp first
  refine ⟨acts, ?_, ?_, ?_⟩
  · exact ((acts.selects (Uuid.ofNat 7) (.workOrder attendedOrder) readable).1 allWork).mpr wins
  · exact (holds.eligible_iff intact answer).mpr ⟨by simp, by decide⟩
  · exact fun eligible => absurd ((holds.eligible_iff intact answer).mp eligible).2 (by decide)

end Desk

end Caretaker
