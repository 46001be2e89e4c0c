import Caretaker.Proofs.AlertDispatch
import Caretaker.Proofs.Store.Loaded
import Caretaker.Proofs.Tenancy

/-!
# The order of the gates

Each gate of the gateway can be judged by itself, whatever the others would say: is there
a key, is there a token for it, can its configuration be looked up, does a configuration
have the key, is it switched on, is the payload an alert, can the workflows be loaded.  A
call ends at the first gate that stops it, in this order, and with what that gate says.

Up to there a call has asked for one token, of the bucket of its key, and written
nothing.  A call that no gate stops is settled by dispatching the selected workflow, and
only a dispatch writes to the store.  One that fails writes at most the next number to
the counter of the company.
-/

namespace Caretaker

open Job

namespace Gateway

/-! ## The gates one by one -/

/-- What can keep a call from being settled. -/
inductive Gate where
  | key
  | token
  | lookup
  | known
  | switched
  | payload
  | candidates
  deriving DecidableEq

/-- The gates in the order in which a call comes to them. -/
def Gate.order : List Gate :=
  [.key, .token, .lookup, .known, .switched, .payload, .candidates]

/-- Asking at a desk for a token of a key. -/
def askToken (key : String) (desk : Desk) : Bool × Limiter Float :=
  desk.limiter.allow (webhookBucket key) (desk.source.nanos desk.source.drawn)

/-- A configuration has exactly this key. -/
def knows (desk : Desk) (key : String) : Bool :=
  desk.store.configs.any fun row => row.apiKey == key

/-- The configuration with the key of a call, as far as it can be read. -/
def keyed (desk : Desk) (apiKey : Option String) : Option WebhookConfig :=
  apiKey.bind fun key => (desk.store.findConfigByKey key).toOption.join

/-- How a call ends at an access to the store that has no result. -/
def broken {α : Type} : Outcome StoreError α → Option (Outcome WebhookError WebhookResult)
  | .done _ => none
  | .failed error => some (.failed (.storage error.message))
  | .stalled => some .stalled

/-- How the gate stops a call, if it does. -/
def Gate.stops (desk : Desk) (apiKey : Option String) (payload : List UInt8) :
    Gate → Option (Outcome WebhookError WebhookResult)
  | .key => if apiKey = none ∨ apiKey = some "" then some (.failed .missingApiKey) else none
  | .token => apiKey.bind fun key =>
      if (askToken key desk).1 then none else some (.failed .rateLimited)
  | .lookup => apiKey.bind fun key => broken ((Desk.findConfigByKey key).run desk).1
  | .known => apiKey.bind fun key =>
      if knows desk key then none else some (.failed .invalidApiKey)
  | .switched => (keyed desk apiKey).bind fun config =>
      if config.enabled then none else some (.failed .disabled)
  | .payload => match Payload.normalizeBytes payload with
      | .ok _ => none
      | .error error => some (.failed (.validation error.message))
  | .candidates => (keyed desk apiKey).bind fun config =>
      broken ((Desk.matchWorkflows config.companyId .webhook).run desk).1

/-- How the first gate that stops a call does so. -/
def firstStop (desk : Desk) (apiKey : Option String) (payload : List UInt8) :
    Option (Outcome WebhookError WebhookResult) :=
  Gate.order.findSome? (Gate.stops desk apiKey payload)

/-- The desk after a call has asked for a token of its key. -/
def tokenAsked (key : String) (desk : Desk) : Desk :=
  { desk with
    source := { desk.source with drawn := desk.source.drawn + 1 }
    limiter := (askToken key desk).2 }

/-- The desk at which a call comes to the end of the gates.  Without a key it has not even
asked for a token. -/
def atGates (apiKey : Option String) (desk : Desk) : Desk :=
  match apiKey.filter fun key => !key.isEmpty with
  | none => desk
  | some key => tokenAsked key desk

/-- The call has a key, a token, a configuration that is switched on, and an alert. -/
structure LetIn (desk : Desk) (key : String) (payload : List UInt8) (config : WebhookConfig)
    (alert : Alert) : Prop where
  given : key ≠ ""
  token : (askToken key desk).1 = true
  found : ((Desk.findConfigByKey key).run desk).1 = .done (some config)
  enabled : config.enabled = true
  normal : Payload.normalizeBytes payload = .ok alert

/-- The call is let in, and the candidates for it are loaded. -/
structure Admitted (desk : Desk) (key : String) (payload : List UInt8) (config : WebhookConfig)
    (alert : Alert) (candidates : List Workflow) : Prop
    extends LetIn desk key payload config alert where
  loaded : ((Desk.matchWorkflows config.companyId .webhook).run desk).1 = .done candidates

/-- A call ends at the first gate that stops it, or is settled. -/
inductive Passage (timeout : Nat) (apiKey : Option String) (payload : List UInt8) (desk : Desk) :
    Prop where
  | stopped {outcome : Outcome WebhookError WebhookResult}
      (first : firstStop desk apiKey payload = some outcome)
      (run : (handle timeout apiKey payload).run desk = (outcome, atGates apiKey desk))
  | settled {key : String} {config : WebhookConfig} {alert : Alert} {candidates : List Workflow}
      (given : apiKey = some key) (first : firstStop desk apiKey payload = none)
      (admitted : Admitted desk key payload config alert candidates)
      (run : (handle timeout apiKey payload).run desk =
        (settle timeout config.companyId alert
          (Workflow.firstMatch candidates (.alert alert))).run (tokenAsked key desk))

/-! ## Coming to the gates -/

variable {desk : Desk} {key : String} {payload : List UInt8} (timeout : Nat)

/-- What is left to do for a call that got its token. -/
def afterToken (timeout : Nat) (key : String) (payload : List UInt8) :
    Job WebhookError WebhookResult := do
  let config ← resolve key
  let alert ← normalize payload
  let selected ← (Engine.select config.companyId .webhook (.alert alert)).mapError .ofStore
  settle timeout config.companyId alert selected

theorem run_handle_of_noKey {apiKey : Option String} (absent : apiKey = none ∨ apiKey = some "")
    (desk : Desk) (payload : List UInt8) :
    (handle timeout apiKey payload).run desk = (.failed .missingApiKey, desk) ∧
      atGates apiKey desk = desk := by
  rcases absent with rfl | rfl <;> exact ⟨rfl, rfl⟩

theorem atGates_of_key (given : key ≠ "") (desk : Desk) :
    atGates (some key) desk = tokenAsked key desk := by
  have kept : (some key).filter (fun key => !key.isEmpty) = some key := by simp [given]
  rw [atGates, kept]

/-- A call with a key that a gate stops has asked for its token before. -/
theorem Passage.stopped_of_key (given : key ≠ "") {outcome : Outcome WebhookError WebhookResult}
    (first : firstStop desk (some key) payload = some outcome)
    (run : (handle timeout (some key) payload).run desk = (outcome, tokenAsked key desk)) :
    Passage timeout (some key) payload desk := by
  rw [← atGates_of_key given] at run
  exact .stopped first run

/-- A call with a key asks for a token before anything else. -/
theorem run_handle_of_key (given : key ≠ "") (desk : Desk) (payload : List UInt8) :
    (handle timeout (some key) payload).run desk =
      if (askToken key desk).1 then (afterToken timeout key payload).run (tokenAsked key desk)
      else (.failed .rateLimited, tokenAsked key desk) := by
  have kept : (some key).filter (fun key => !key.isEmpty) = some key := by simp [given]
  rw [handle, kept, orFail, pure_bind, run_bind, run_takeToken]
  cases granted : (askToken key desk).1 with
  | true =>
      rw [askToken] at granted
      dsimp only
      rw [granted]
      rfl
  | false =>
      rw [askToken] at granted
      dsimp only
      rw [granted]
      rfl

/-- What the look-up of a key comes to. -/
def resolution : Outcome StoreError (Option WebhookConfig) → Outcome WebhookError WebhookConfig
  | .done (some config) => if config.enabled then .done config else .failed .disabled
  | .done none => .failed .invalidApiKey
  | .failed error => .failed (.storage error.message)
  | .stalled => .stalled

/-- A token makes no difference to the look-up of a key. -/
theorem run_resolve (key : String) (desk : Desk) :
    (resolve key).run (tokenAsked key desk) =
      (resolution ((Desk.findConfigByKey key).run desk).1, tokenAsked key desk) := by
  have looks : (Desk.findConfigByKey key).run (tokenAsked key desk) =
      (((Desk.findConfigByKey key).run desk).1, tokenAsked key desk) := run_read_later rfl rfl
  rw [resolve, run_bind, run_mapError, looks]
  rcases ((Desk.findConfigByKey key).run desk).1 with found | error | _
  · cases found with
    | none => rfl
    | some config =>
        show (if config.enabled then pure config else fail .disabled : Job WebhookError _).run
          (tokenAsked key desk) = _
        rw [resolution]
        split <;> rfl
  · rfl
  · rfl

/-- A token makes no difference to the loading of the candidates. -/
theorem run_select (company : Uuid) (alert : Alert) (key : String) (desk : Desk) :
    (Engine.select company .webhook (.alert alert)).run (tokenAsked key desk) =
      match ((Desk.matchWorkflows company .webhook).run desk).1 with
      | .done candidates =>
          (.done (Workflow.firstMatch candidates (.alert alert)), tokenAsked key desk)
      | .failed error => (.failed error, tokenAsked key desk)
      | .stalled => (.stalled, tokenAsked key desk) := by
  have looks : (Desk.matchWorkflows company .webhook).run (tokenAsked key desk) =
      (((Desk.matchWorkflows company .webhook).run desk).1, tokenAsked key desk) :=
    run_read_later rfl rfl
  rw [Engine.select, run_bind, looks]
  rcases ((Desk.matchWorkflows company .webhook).run desk).1 with candidates | error | _ <;> rfl

/-! ## Coming through the gates -/

theorem knows_of_done {found : Option WebhookConfig}
    (done : ((Desk.findConfigByKey key).run desk).1 = .done found) :
    knows desk key = found.isSome := by
  obtain ⟨-, answer⟩ := run_read_eq_done_iff.mp done
  simp only [Store.findConfigByKey, bind_eq_ok_iff] at answer
  obtain ⟨_, -, answer⟩ := answer
  cases located : desk.store.configs.find? fun row => row.apiKey == key with
  | none =>
      rw [located] at answer
      cases answer
      rw [knows, Option.isSome_none, List.any_eq_false]
      exact List.find?_eq_none.mp located
  | some row =>
      rw [located] at answer
      simp only [Store.readOne, bind_eq_ok_iff, pure_eq_ok_iff] at answer
      obtain ⟨config, -, rfl⟩ := answer
      rw [knows, Option.isSome_some, List.any_eq_true]
      have named := List.find?_some located
      exact ⟨row, List.mem_of_find?_eq_some located, named⟩

section

variable {config : WebhookConfig} {alert : Alert} {candidates : List Workflow}

theorem keyed_of_found (found : ((Desk.findConfigByKey key).run desk).1 = .done (some config)) :
    keyed desk (some key) = some config := by
  obtain ⟨-, answer⟩ := run_read_eq_done_iff.mp found
  rw [keyed, Option.bind_some, answer]
  rfl

/-- A call that was let in comes to the loading of the candidates. -/
theorem LetIn.run_handle (letIn : LetIn desk key payload config alert) :
    (handle timeout (some key) payload).run desk =
      match ((Desk.matchWorkflows config.companyId .webhook).run desk).1 with
      | .done candidates => (settle timeout config.companyId alert
          (Workflow.firstMatch candidates (.alert alert))).run (tokenAsked key desk)
      | .failed error => (.failed (.storage error.message), tokenAsked key desk)
      | .stalled => (.stalled, tokenAsked key desk) := by
  rw [run_handle_of_key timeout letIn.given, letIn.token, if_pos rfl, afterToken, run_bind,
    run_resolve, letIn.found, resolution, if_pos letIn.enabled]
  dsimp only
  rw [normalize, letIn.normal]
  dsimp only
  rw [pure_bind, run_bind, run_mapError, run_select]
  rcases ((Desk.matchWorkflows config.companyId .webhook).run desk).1 with candidates | error | _ <;>
    rfl

/-- Only the loading of the candidates can stop a call that was let in. -/
theorem LetIn.firstStop_eq (letIn : LetIn desk key payload config alert) :
    firstStop desk (some key) payload =
      broken ((Desk.matchWorkflows config.companyId .webhook).run desk).1 := by
  have known := knows_of_done letIn.found
  simp [firstStop, Gate.order, Gate.stops, letIn.given, letIn.token, letIn.found, broken, known,
    keyed_of_found letIn.found, letIn.enabled, letIn.normal]

theorem Admitted.run_handle (admitted : Admitted desk key payload config alert candidates) :
    (handle timeout (some key) payload).run desk =
      (settle timeout config.companyId alert
        (Workflow.firstMatch candidates (.alert alert))).run (tokenAsked key desk) := by
  rw [admitted.toLetIn.run_handle, admitted.loaded]

/-- A call whose configuration was found is stopped later or settled. -/
theorem passage_of_config (given : key ≠ "") (granted : (askToken key desk).1 = true)
    (found : ((Desk.findConfigByKey key).run desk).1 = .done (some config)) :
    Passage timeout (some key) payload desk := by
  have known := knows_of_done found
  have own := keyed_of_found found
  have run := run_handle_of_key timeout given desk payload
  rw [granted, if_pos rfl, afterToken, run_bind, run_resolve, found, resolution] at run
  cases enabled : config.enabled with
  | false =>
      rw [enabled, if_neg Bool.false_ne_true] at run
      refine .stopped_of_key timeout given ?_ run
      simp [firstStop, Gate.order, Gate.stops, given, granted, found, broken, known, own, enabled]
  | true =>
      cases normal : Payload.normalizeBytes payload with
      | error error =>
          rw [enabled, if_pos rfl] at run
          dsimp only at run
          rw [normalize, normal] at run
          refine .stopped_of_key timeout given ?_ run
          simp [firstStop, Gate.order, Gate.stops, given, granted, found, broken, known, own, enabled,
            normal]
      | ok alert =>
          have letIn : LetIn desk key payload config alert := ⟨given, granted, found, enabled, normal⟩
          have run := letIn.run_handle timeout
          have first := letIn.firstStop_eq
          cases loaded : ((Desk.matchWorkflows config.companyId .webhook).run desk).1 with
          | done candidates =>
              rw [loaded] at first
              have admitted : Admitted desk key payload config alert candidates := ⟨letIn, loaded⟩
              exact .settled rfl first admitted (admitted.run_handle timeout)
          | failed error =>
              rw [loaded] at run first
              exact .stopped_of_key timeout given first run
          | stalled =>
              rw [loaded] at run first
              exact .stopped_of_key timeout given first run

end

/-- Every call ends at the first gate that stops it, or is settled. -/
theorem handle_passage (apiKey : Option String) (payload : List UInt8) (desk : Desk) :
    Passage timeout apiKey payload desk := by
  by_cases absent : apiKey = none ∨ apiKey = some ""
  · obtain ⟨run, stays⟩ := run_handle_of_noKey timeout absent desk payload
    refine .stopped ?_ (run.trans (by rw [stays]))
    simp [firstStop, Gate.order, Gate.stops, absent]
  · obtain ⟨key, rfl, given⟩ : ∃ key, apiKey = some key ∧ key ≠ "" := by
      cases apiKey <;> simp_all
    have run := run_handle_of_key timeout given desk payload
    cases granted : (askToken key desk).1 with
    | false =>
        rw [granted, if_neg Bool.false_ne_true] at run
        refine .stopped_of_key timeout given ?_ run
        simp [firstStop, Gate.order, Gate.stops, given, granted]
    | true =>
        rw [granted, if_pos rfl, afterToken, run_bind, run_resolve] at run
        cases looked : ((Desk.findConfigByKey key).run desk).1 with
        | done found =>
            cases found with
            | some config => exact passage_of_config timeout given granted looked
            | none =>
                have unknown := knows_of_done looked
                rw [looked, resolution] at run
                refine .stopped_of_key timeout given ?_ run
                simp [firstStop, Gate.order, Gate.stops, given, granted, looked, broken, unknown]
        | failed error =>
            rw [looked, resolution] at run
            refine .stopped_of_key timeout given ?_ run
            simp [firstStop, Gate.order, Gate.stops, given, granted, looked, broken]
        | stalled =>
            rw [looked, resolution] at run
            refine .stopped_of_key timeout given ?_ run
            simp [firstStop, Gate.order, Gate.stops, given, granted, looked, broken]

/-- No gate has a result to give. -/
theorem isDone_of_firstStop {apiKey : Option String} {outcome : Outcome WebhookError WebhookResult}
    (first : firstStop desk apiKey payload = some outcome) : isDone outcome = false := by
  have broken_unfinished {α : Type} {ended : Outcome StoreError α}
      (stop : broken ended = some outcome) : isDone outcome = false := by
    cases ended <;> cases stop <;> rfl
  have refused_unfinished {α : Type} {asked : Option α} {passes : α → Bool} {error : WebhookError}
      (stop : (asked.bind fun value => if passes value then none else some (.failed error)) =
        some outcome) : isDone outcome = false := by
    simp only [Option.bind_eq_some_iff, Option.ite_none_left_eq_some, Option.some.injEq] at stop
    obtain ⟨_, -, -, rfl⟩ := stop
    rfl
  obtain ⟨gate, -, stop⟩ := List.exists_of_findSome?_eq_some first
  cases gate with
  | key =>
      simp only [Gate.stops, Option.ite_none_right_eq_some, Option.some.injEq] at stop
      rw [← stop.2, isDone]
  | token => exact refused_unfinished stop
  | lookup =>
      obtain ⟨_, -, stop⟩ := Option.bind_eq_some_iff.mp stop
      exact broken_unfinished stop
  | known => exact refused_unfinished stop
  | switched => exact refused_unfinished stop
  | payload =>
      rw [Gate.stops] at stop
      split at stop <;> cases stop
      rfl
  | candidates =>
      obtain ⟨_, -, stop⟩ := Option.bind_eq_some_iff.mp stop
      exact broken_unfinished stop

/-! ## Settling a call -/

/-- How a call of a company is settled.  The limiter stays as it is.  Only a dispatch that
opens something changes the store, and one that fails may have moved the counter of the
company on. -/
inductive Settled (company : Uuid) (desk : Desk) :
    Outcome WebhookError WebhookResult × Desk → Prop where
  | noMatch : Settled company desk (.done .noMatch, desk)
  | executed {id : Uuid} {effect : Effect} {after : Desk}
      (store : effect ≠ .applied → after.store = desk.store)
      (limiter : after.limiter = desk.limiter) :
      Settled company desk (.done (.executed id effect), after)
  | givenUp {result : Outcome WebhookError WebhookResult × Desk}
      (reported : (∃ reason, result.1 = .failed (.execution reason)) ∨ result.1 = .stalled)
      (store : result.2.store = desk.store ∨
        ∃ next, desk.store.advanceCounter company = .ok (next, result.2.store))
      (limiter : result.2.limiter = desk.limiter) :
      Settled company desk result

theorem settle_settled {company : Uuid} {selected : Option Workflow}
    (own : ∀ w, selected = some w → w.companyId = company) (alert : Alert) (desk : Desk) :
    Settled company desk ((settle timeout company alert selected).run desk) := by
  cases selected with
  | none => exact .noMatch
  | some w =>
      rw [settle]
      have ends := Dispatch.alert_ends w alert desk
      generalize dispatched : (Dispatch.alert w alert).run desk = result at ends
      cases ends with
      | unmet notMet =>
          rw [run_execute_of_done company alert timeout dispatched]
          exact .executed (fun _ => rfl) rfl
      | idle met noOrder noRequest =>
          rw [run_execute_of_done company alert timeout dispatched]
          exact .executed (fun _ => rfl) rfl
      | ordered met selected moved content saved =>
          rw [run_execute_of_done company alert timeout dispatched]
          exact .executed (fun other => absurd rfl other) rfl
      | requested met selected saved =>
          rw [run_execute_of_done company alert timeout dispatched]
          exact .executed (fun other => absurd rfl other) rfl
      | brokenOff unfinished =>
          have givenUp := execute_givenUp company alert timeout dispatched unfinished
          exact .givenUp givenUp.reported (.inl givenUp.store) givenUp.limiter
      | @brokenOffCounting outcome next counted unfinished moved =>
          have givenUp := execute_givenUp company alert timeout dispatched unfinished
          rw [own w rfl] at moved
          have counts : desk.store.advanceCounter company =
              .ok (next, ((execute timeout company w alert).run desk).2.store) := by
            rw [givenUp.store]
            exact moved
          exact .givenUp givenUp.reported (.inr ⟨next, counts⟩) givenUp.limiter

/-! ## Accounting for a call -/

/-- The call opened a ticket. -/
def HasApplied (outcome : Outcome WebhookError WebhookResult) : Prop :=
  ∃ id, outcome = .done (.executed id .applied)

/-- The dispatch of the call failed, or the call never ended. -/
def HasFailed (outcome : Outcome WebhookError WebhookResult) : Prop :=
  (∃ reason, outcome = .failed (.execution reason)) ∨ outcome = .stalled

/-- What a call ends with, and what it leaves behind. -/
structure Accounted (apiKey : Option String) (payload : List UInt8) (desk : Desk)
    (result : Outcome WebhookError WebhookResult × Desk) : Prop where
  stopped : ∀ outcome, firstStop desk apiKey payload = some outcome →
    result.1 = outcome ∧ result.2.store = desk.store
  passed : firstStop desk apiKey payload = none →
    result.1 = .done .noMatch ∨ (∃ id effect, result.1 = .done (.executed id effect)) ∨
      HasFailed result.1
  keyless : apiKey = none ∨ apiKey = some "" → result.2 = desk
  asked : ∀ key, apiKey = some key → key ≠ "" → result.2.limiter = (askToken key desk).2
  otherBuckets : ∀ key bucket, apiKey = some key → bucket ≠ webhookBucket key →
    result.2.limiter.buckets.lookup bucket = desk.limiter.buckets.lookup bucket
  unwritten : ¬HasApplied result.1 → ¬HasFailed result.1 → result.2.store = desk.store
  counted : ¬HasApplied result.1 → result.2.store = desk.store ∨
    ∃ config next, keyed desk apiKey = some config ∧
      desk.store.advanceCounter config.companyId = .ok (next, result.2.store)

theorem atGates_store (apiKey : Option String) (desk : Desk) :
    (atGates apiKey desk).store = desk.store := by
  unfold atGates
  split <;> rfl

/-- Whatever comes of a call, only the bucket of its key is asked for a token. -/
theorem askToken_others (key : String) (desk : Desk) {bucket : String}
    (isOther : bucket ≠ webhookBucket key) :
    (askToken key desk).2.buckets.lookup bucket = desk.limiter.buckets.lookup bucket :=
  Limiter.lookup_allow_of_ne desk.limiter isOther _

/-- A call that a gate stops wrote nothing, and asked for a token if it had a key. -/
theorem accounted_of_stop {apiKey : Option String} {outcome : Outcome WebhookError WebhookResult}
    (first : firstStop desk apiKey payload = some outcome) :
    Accounted apiKey payload desk (outcome, atGates apiKey desk) where
  stopped other first' := by
    rw [first] at first'
    cases first'
    exact ⟨rfl, atGates_store apiKey desk⟩
  passed open_ := by
    rw [first] at open_
    cases open_
  keyless absent := (run_handle_of_noKey 0 absent desk payload).2
  asked key isKey given := by
    rw [isKey, atGates_of_key given]
    rfl
  otherBuckets key bucket isKey isOther := by
    by_cases given : key = ""
    · rw [isKey, given]
      rfl
    · rw [isKey, atGates_of_key given]
      exact askToken_others key desk isOther
  unwritten _ _ := atGates_store apiKey desk
  counted _ := .inl (atGates_store apiKey desk)

/-- A call that was let in is accounted for as it is settled. -/
theorem accounted_of_settled {key : String} {config : WebhookConfig}
    {result : Outcome WebhookError WebhookResult × Desk} (given : key ≠ "")
    (first : firstStop desk (some key) payload = none)
    (found : ((Desk.findConfigByKey key).run desk).1 = .done (some config))
    (settled : Settled config.companyId (tokenAsked key desk) result) :
    Accounted (some key) payload desk result := by
  have limiter : result.2.limiter = (askToken key desk).2 := by
    cases settled with
    | noMatch => rfl
    | executed store limiter => exact limiter
    | givenUp reported store limiter => exact limiter
  have own := keyed_of_found found
  constructor
  · intro outcome stop
    rw [first] at stop
    cases stop
  · intro _
    cases settled with
    | noMatch => exact .inl rfl
    | executed store limiter => exact .inr (.inl ⟨_, _, rfl⟩)
    | givenUp reported store limiter => exact .inr (.inr reported)
  · rintro (absent | absent)
    · cases absent
    · exact absurd (Option.some.inj absent) given
  · rintro _ ⟨⟩ _
    exact limiter
  · rintro _ bucket ⟨⟩ isOther
    rw [limiter]
    exact askToken_others key desk isOther
  · intro notApplied notFailed
    cases settled with
    | noMatch => rfl
    | @executed id effect after store limiter =>
        exact store fun applied => notApplied ⟨id, by rw [applied]⟩
    | givenUp reported store limiter => exact absurd reported notFailed
  · intro notApplied
    cases settled with
    | noMatch => exact .inl rfl
    | @executed id effect after store limiter =>
        exact .inl (store fun applied => notApplied ⟨id, by rw [applied]⟩)
    | givenUp reported store limiter =>
        rcases store with same | ⟨next, moved⟩
        · exact .inl same
        · exact .inr ⟨config, next, own, moved⟩

/-- A call ends with what the first gate says that stops it, and otherwise without a
match, with what the dispatch did, or with its failure.  It asks for a token once, of the
bucket of its key and of no other.  Unless the dispatch opened a ticket or failed, nothing
is written; and when it failed, nothing but the counter of the company may have moved. -/
theorem handle_accounted (timeout : Nat) (apiKey : Option String) (payload : List UInt8)
    (desk : Desk) :
    Accounted apiKey payload desk ((handle timeout apiKey payload).run desk) := by
  cases handle_passage timeout apiKey payload desk with
  | stopped first run =>
      rw [run]
      exact accounted_of_stop first
  | @settled key config alert candidates given first admitted run =>
      subst given
      rw [run]
      apply accounted_of_settled admitted.given first admitted.found
      apply settle_settled
      intro w selected
      obtain ⟨-, loaded⟩ := run_read_eq_done_iff.mp admitted.loaded
      exact Store.companyId_of_workflowsFor loaded w (List.mem_of_find?_eq_some selected)

/-- A desk like the shared one, where the table of work orders is gone. -/
def tableless : Desk :=
  { shared with store := { shared.store with dropped := [.workOrders] } }

/-- The reason of a failed execution. -/
def executionFailure? : Outcome WebhookError WebhookResult → Option String
  | .failed (.execution reason) => some reason
  | _ => none

/-- The failure of a dispatch that was not cut short still uses up a number. -/
theorem failed_dispatch_counts :
    executionFailure? ((handle 5000 (some (Uuid.ofNat 4).text) plainPayload).run tableless).1 =
        some (StoreError.query (.missingTable .workOrders)).message ∧
      tableless.store.counters.length = 0 ∧
      ((handle 5000 (some (Uuid.ofNat 4).text) plainPayload).run
        tableless).2.store.counters.length = 1 := by
  decide +kernel

end Gateway

end Caretaker
