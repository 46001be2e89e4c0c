import Caretaker.Proofs.Buckets
import Caretaker.Proofs.Desk.InStep
import Caretaker.Proofs.Gates
import Caretaker.Proofs.Operations
import Caretaker.Proofs.Store.Candidates
import Caretaker.Proofs.Store.Share

/-!
# Calls stay with their company

A call with a key concerns the company whose configuration has the key.  Two desks
agree on the key when they have the same configuration for it, the same share and the
same counter for its company, and the same bucket for the key itself.  Everything else
may differ: other companies with all that is theirs, and the tickets and users of the
company itself.

At two such desks a call is answered alike, and adds the same row.  At each of them it
leaves the rows and counters of all other companies, and the buckets of all other
keys, as they were.  Afterwards the desks agree on the key again.
-/

namespace Caretaker

open Job

/-! ## What a key gives access to -/

namespace Store

/-- The company has a configuration with the key. -/
def Owns (s : Store) (key company : String) : Prop :=
  ∃ row ∈ s.configs, row.apiKey = key ∧ row.companyId = company

variable {s s' : Store}

/-- Whoever finds a configuration by a key finds one of a company that owns the key. -/
theorem owns_of_findConfigByKey {allowed : Calendar.Instant → Prop} (sound : Sound allowed s)
    {key : String} {config : WebhookConfig} (answer : s.findConfigByKey key = .ok (some config)) :
    s.Owns key config.companyId.text := by
  simp only [findConfigByKey, sound.intact.require, ok_bind] at answer
  cases located : s.configs.find? fun row => row.apiKey == key with
  | none =>
      rw [located] at answer
      cases answer
  | some row =>
      have member := List.mem_of_find?_eq_some located
      obtain ⟨stored, -, rfl⟩ := sound.configs row member
      rw [located] at answer
      simp only [readOne, bind_eq_ok_iff, pure_eq_ok_iff, Option.some.injEq,
        ConfigRow.config_ofConfig_eq_ok_iff] at answer
      obtain ⟨_, ⟨-, rfl⟩, rfl⟩ := answer
      have named : ((ConfigRow.ofConfig stored).apiKey == key) = true := by
        simpa using List.find?_some located
      exact ⟨_, member, eq_of_beq named, rfl⟩

theorem findConfigByKey_congr (intact : s.Intact) (intact' : s'.Intact) {key : String}
    (same : (s.configs.filter fun row => row.apiKey == key) =
      s'.configs.filter fun row => row.apiKey == key) :
    s.findConfigByKey key = s'.findConfigByKey key := by
  have found := congrArg List.head? same
  rw [List.head?_filter, List.head?_filter] at found
  simp only [findConfigByKey, intact.require, intact'.require, ok_bind, found]

end Store

namespace Desk

/-- The desks agree on everything that a key gives access to. -/
structure AgreesOn (key : String) (a b : Desk) : Prop where
  configs : (a.store.configs.filter fun row => row.apiKey == key) =
    b.store.configs.filter fun row => row.apiKey == key
  shares : ∀ company, a.store.Owns key company →
    (a.store.share company).Perm (b.store.share company)
  counters : ∀ company, a.store.Owns key company →
    a.store.countersOf company = b.store.countersOf company
  rule : a.limiter.rule = b.limiter.rule
  bucket : a.limiter.buckets.lookup (webhookBucket key) =
    b.limiter.buckets.lookup (webhookBucket key)
  channels : a.outages = b.outages

/-- Between two states of a desk, at most one row was added, for a company that owns the
key, and besides that only the counter of such a company and the bucket of the key may
have changed. -/
structure Spares (key : String) (before : Desk) (added : Added) (after : Desk) : Prop where
  store : after.store = { before.store with
    workOrders := before.store.workOrders ++ added.orders
    requests := before.store.requests ++ added.requests
    counters := after.store.counters }
  few : added.count ≤ 1
  ownOrders : ∀ row ∈ added.orders, before.store.Owns key row.companyId
  ownRequests : ∀ row ∈ added.requests, before.store.Owns key row.companyId
  counters : ∀ company, ¬before.store.Owns key company →
    after.store.countersOf company = before.store.countersOf company
  unowned : (∀ company, ¬before.store.Owns key company) →
    after.store.counters = before.store.counters
  rule : after.limiter.rule = before.limiter.rule
  buckets : ∀ bucket, bucket ≠ webhookBucket key →
    after.limiter.buckets.lookup bucket = before.limiter.buckets.lookup bucket

/-- A call was read by a desk: it may have asked for a token, and nothing more. -/
structure Approached (key : String) (before after : Desk) : Prop where
  store : after.store = before.store
  rule : after.limiter.rule = before.limiter.rule
  buckets : ∀ bucket, bucket ≠ webhookBucket key →
    after.limiter.buckets.lookup bucket = before.limiter.buckets.lookup bucket
  outages : after.outages = before.outages
  ids : after.source.id = before.source.id
  drawn : before.source.drawn ≤ after.source.drawn

theorem Approached.refl (key : String) (desk : Desk) : Approached key desk desk :=
  ⟨rfl, rfl, fun _ _ => rfl, rfl, rfl, Nat.le_refl _⟩

variable {key : String} {before desk after : Desk} {added : Added} {company : Uuid}

theorem Approached.freshIds (approached : Approached key before desk) (fresh : before.FreshIds) :
    desk.FreshIds := by
  intro n drawn
  rw [approached.ids, Unused, approached.store]
  exact fresh n (Nat.le_trans approached.drawn drawn)

/-- A call that only approached has spared everything. -/
theorem Approached.spares (approached : Approached key before desk) :
    Spares key before .none desk where
  store := by
    rw [approached.store]
    simp [Added.none]
  few := Nat.zero_le _
  ownOrders := by simp [Added.none]
  ownRequests := by simp [Added.none]
  counters _ _ := by rw [approached.store]
  unowned _ := by rw [approached.store]
  rule := approached.rule
  buckets := approached.buckets

/-- What was done on behalf of an owner of the key spared everything else. -/
theorem Since.spares (since : Since company desk added after)
    (approached : Approached key before desk) (owns : before.store.Owns key company.text)
    (few : added.count ≤ 1) : Spares key before added after where
  store := by
    rw [since.store, approached.store]
  few := few
  ownOrders row member := by
    rw [since.ownOrders row member]
    exact owns
  ownRequests row member := by
    rw [since.ownRequests row member]
    exact owns
  counters other foreign := by
    have differs : other ≠ company.text := fun same => foreign (same ▸ owns)
    rw [since.counters other differs, approached.store]
  unowned nobody := absurd owns (nobody _)
  rule := by
    rw [since.limiter, approached.rule]
  buckets bucket isOther := by
    rw [since.limiter, approached.buckets bucket isOther]

theorem Spares.configs_eq (spares : Spares key before added after) :
    after.store.configs = before.store.configs := by
  rw [spares.store]

theorem Spares.share_eq (spares : Spares key before added after) (owner : String) :
    after.store.share owner = before.store.share owner := by
  rw [spares.store]
  rfl

theorem Spares.owns_iff (spares : Spares key before added after) {owner : String} :
    after.store.Owns key owner ↔ before.store.Owns key owner := by
  rw [Store.Owns, spares.configs_eq, Store.Owns]

section

variable {startA startB a b : Desk} {addedA addedB : Added}

/-- Desks that agreed on a key still do after calls that spared the rest, as long as the
counters and the bucket are the same on both sides. -/
theorem AgreesOn.later (agree : AgreesOn key startA startB) (sparesA : Spares key startA addedA a)
    (sparesB : Spares key startB addedB b)
    (counters : ∀ owner, startA.store.Owns key owner →
      a.store.countersOf owner = b.store.countersOf owner)
    (bucket : a.limiter.buckets.lookup (webhookBucket key) =
      b.limiter.buckets.lookup (webhookBucket key))
    (channels : a.outages = b.outages) : AgreesOn key a b where
  configs := by
    rw [sparesA.configs_eq, sparesB.configs_eq, agree.configs]
  shares owner owns := by
    rw [sparesA.share_eq, sparesB.share_eq]
    exact agree.shares owner (sparesA.owns_iff.mp owns)
  counters owner owns := counters owner (sparesA.owns_iff.mp owns)
  rule := by
    rw [sparesA.rule, sparesB.rule, agree.rule]
  bucket := bucket
  channels := channels

/-- Both desks were approached, and the bucket of the key is the same at both. -/
structure AtGates (key : String) (startA startB a b : Desk) : Prop where
  first : Approached key startA a
  second : Approached key startB b
  bucket : a.limiter.buckets.lookup (webhookBucket key) =
    b.limiter.buckets.lookup (webhookBucket key)

/-- Both calls are over: they added the same row, spared everything else, and the desks
agree on the key again. -/
structure Finished (key : String) (startA startB a b : Desk) : Prop where
  spares : ∃ addedA addedB, Spares key startA addedA a ∧ Spares key startB addedB b ∧
    addedA.anonymous = addedB.anonymous
  agree : AgreesOn key a b

theorem AtGates.channels (gates : AtGates key startA startB a b)
    (agree : AgreesOn key startA startB) : a.outages = b.outages := by
  rw [gates.first.outages, gates.second.outages, agree.channels]

theorem AtGates.finished (gates : AtGates key startA startB a b)
    (agree : AgreesOn key startA startB) : Finished key startA startB a b where
  spares := ⟨.none, .none, gates.first.spares, gates.second.spares, rfl⟩
  agree := by
    apply agree.later gates.first.spares gates.second.spares _ gates.bucket (gates.channels agree)
    intro owner owns
    rw [gates.first.store, gates.second.store]
    exact agree.counters owner owns

theorem AgreesOn.owns (agree : AgreesOn key startA startB) {owner : String}
    (owns : startA.store.Owns key owner) : startB.store.Owns key owner := by
  obtain ⟨row, member, named, own⟩ := owns
  have listed : row ∈ startA.store.configs.filter fun row => row.apiKey == key :=
    List.mem_filter.mpr ⟨member, beq_iff_eq.mpr named⟩
  rw [agree.configs] at listed
  exact ⟨row, List.mem_of_mem_filter listed, named, own⟩

/-- At the gates, two runs on behalf of an owner of the key can start in step. -/
theorem AtGates.inStep (gates : AtGates key startA startB a b)
    (agree : AgreesOn key startA startB) (owns : startA.store.Owns key company.text) :
    InStep company a b 0 a b where
  since := ⟨.none, .none, .start company a, .start company b, rfl, Nat.le_refl _, Nat.le_refl _⟩
  counters := by
    rw [gates.first.store, gates.second.store]
    exact agree.counters _ owns
  channels := gates.channels agree

/-- Two runs that stayed in step on behalf of an owner of the key finish both calls. -/
theorem InStep.finished {startA startB a b a' b' : Desk} (level : InStep company a b 1 a' b')
    (gates : AtGates key startA startB a b) (agree : AgreesOn key startA startB)
    (owns : startA.store.Owns key company.text) (ownsB : startB.store.Owns key company.text) :
    Finished key startA startB a' b' := by
  obtain ⟨⟨addedA, addedB, sinceA, sinceB, same, fewA, fewB⟩, counters, channels⟩ := level
  have sparesA := sinceA.spares gates.first owns fewA
  have sparesB := sinceB.spares gates.second ownsB fewB
  constructor
  · exact ⟨addedA, addedB, sparesA, sparesB, same⟩
  · apply agree.later sparesA sparesB
    · intro owner ownsOther
      by_cases own : owner = company.text
      · rw [own]
        exact counters
      · rw [sinceA.counters owner own, sinceB.counters owner own, gates.first.store,
          gates.second.store]
        exact agree.counters owner ownsOther
    · rw [sinceA.limiter, sinceB.limiter]
      exact gates.bucket
    · exact channels

end

end Desk

/-! ## What others may do -/

namespace Desk

variable {key : String} {desk : Desk}

/-- Desks without tickets have every identifier left. -/
theorem freshIds_of_noTickets (noOrders : desk.store.workOrders = [])
    (noRequests : desk.store.requests = []) : desk.FreshIds := by
  intro n _
  constructor
  · rw [noOrders]
    exact List.forall_mem_nil _
  · rw [noRequests]
    exact List.forall_mem_nil _

/-- A workflow of a company that does not own the key makes no difference to it. -/
theorem agreesOn_addWorkflow {allowed : Calendar.Instant → Prop} (sound : desk.store.Sound allowed)
    {fresh : Nat → Uuid} {w : Workflow} {s' : Store} (added : desk.store.addWorkflow fresh w = .ok s')
    (foreign : ¬desk.store.Owns key w.companyId.text) :
    AgreesOn key desk { desk with store := s' } := by
  obtain ⟨entries, holds, -⟩ := sound.held
  have shares : ∀ company, desk.store.Owns key company →
      (desk.store.share company).Perm (s'.share company) := by
    intro company owns
    have isOther : w.companyId.text ≠ company := fun same => foreign (same ▸ owns)
    rw [holds.share_addWorkflow sound.intact added isOther]
  obtain ⟨-, -, -, rfl⟩ := (Store.addWorkflow_eq_ok_iff sound.intact).mp added
  exact ⟨rfl, shares, fun _ _ => rfl, rfl, rfl, rfl⟩

end Desk

/-! ## Two calls with one key -/

namespace Gateway

open Desk

variable {key : String} {startA startB : Desk}

theorem takeToken_alongside {ε : Type} (agree : AgreesOn key startA startB)
    (clock : startA.source.nanos startA.source.drawn = startB.source.nanos startB.source.drawn) :
    Alongside (fun a b => a = startA ∧ b = startB) (takeToken (webhookBucket key) : Job ε Bool)
      (takeToken (webhookBucket key)) (fun allowed other => allowed = other)
      (AtGates key startA startB) := by
  rintro a b ⟨rfl, rfl⟩
  obtain ⟨allowed, bucket⟩ :=
    Limiter.allow_congr agree.rule agree.bucket (a.source.nanos a.source.drawn)
  rw [run_takeToken, run_takeToken, ← clock]
  constructor
  · exact .done allowed
  · constructor
    · exact ⟨rfl, rfl, fun _ isOther => Limiter.lookup_allow_of_ne _ isOther _, rfl, rfl,
        Nat.le_succ _⟩
    · exact ⟨rfl, rfl, fun _ isOther => Limiter.lookup_allow_of_ne _ isOther _, rfl, rfl,
        Nat.le_succ _⟩
    · exact bucket

variable {allowed : Calendar.Instant → Prop}

theorem resolve_alongside (soundA : startA.store.Sound allowed) (soundB : startB.store.Sound allowed)
    (agree : AgreesOn key startA startB) :
    Alongside (AtGates key startA startB) (resolve key) (resolve key)
      (fun config other => config = other ∧ startA.store.Owns key config.companyId.text)
      (AtGates key startA startB) := by
  have keep : ∀ a b, AtGates key startA startB a b → AtGates key startA startB a b :=
    fun _ _ gates => gates
  have finds : Alongside (AtGates key startA startB) (findConfigByKey key) (findConfigByKey key)
      (fun found other => found = other ∧
        ∀ config, found = some config → startA.store.Owns key config.companyId.text)
      (AtGates key startA startB) := by
    apply Alongside.through
    · apply Alongside.read
      · intro a b gates
        rw [gates.first.store, gates.second.store]
        exact Store.findConfigByKey_congr soundA.intact soundB.intact agree.configs
      · intro a b found gates answer config same
        rw [gates.first.store, same] at answer
        exact Store.owns_of_findConfigByKey soundA answer
    · exact fun _ _ gates => gates.channels agree
    · exact keep
  apply Alongside.bind (Alongside.mapError _ finds)
  · rintro found _ ⟨rfl, owns⟩
    cases found with
    | none => exact Alongside.fail _ keep
    | some config =>
        rw [orFail, pure_bind]
        split
        · exact Alongside.pure ⟨rfl, owns config rfl⟩ keep
        · exact Alongside.fail _ keep
  · exact keep

/-- Two calls pass the same gates, and are let in with the same configuration and alert. -/
theorem letIn_alongside (soundA : startA.store.Sound allowed) (soundB : startB.store.Sound allowed)
    (agree : AgreesOn key startA startB)
    (clock : startA.source.nanos startA.source.drawn = startB.source.nanos startB.source.drawn)
    (payload : List UInt8) :
    Alongside (fun a b => a = startA ∧ b = startB) (letIn (some key) payload)
      (letIn (some key) payload)
      (fun entry other => entry = other ∧ startA.store.Owns key entry.1.companyId.text)
      (AtGates key startA startB) := by
  have keep : ∀ a b, AtGates key startA startB a b → AtGates key startA startB a b :=
    fun _ _ gates => gates
  have arrive : ∀ a b, a = startA ∧ b = startB → AtGates key startA startB a b := by
    rintro a b ⟨rfl, rfl⟩
    exact ⟨.refl key a, .refl key b, agree.bucket⟩
  unfold letIn
  by_cases blank : key = ""
  · have none_ : (some key).filter (fun key => !key.isEmpty) = none := by
      simp [blank]
    rw [none_]
    exact Alongside.fail _ arrive
  · have some_ : (some key).filter (fun key => !key.isEmpty) = some key := by
      simp [blank]
    rw [some_, orFail, pure_bind]
    apply Alongside.bind (takeToken_alongside agree clock)
    · rintro admitted _ rfl
      split
      · exact Alongside.fail _ keep
      · apply Alongside.bind (resolve_alongside soundA soundB agree)
        · rintro config _ ⟨rfl, owns⟩
          unfold normalize
          split
          · rw [pure_bind]
            exact Alongside.pure ⟨rfl, owns⟩ keep
          · exact Alongside.fail _ keep
        · exact keep
    · exact keep

/-- At the gates, the same workflow of the owner is selected. -/
theorem select_alongside (soundA : startA.store.Sound allowed) (soundB : startB.store.Sound allowed)
    (agree : AgreesOn key startA startB) {company : Uuid}
    (owns : startA.store.Owns key company.text) (alert : Alert) :
    Alongside (AtGates key startA startB) (Engine.select company .webhook (.alert alert))
      (Engine.select company .webhook (.alert alert))
      (fun selected other => selected = other ∧ ∀ w, selected = some w → w.companyId = company)
      (AtGates key startA startB) := by
  have keep : ∀ a b, AtGates key startA startB a b → AtGates key startA startB a b :=
    fun _ _ gates => gates
  obtain ⟨entriesA, holdsA, -⟩ := soundA.held
  obtain ⟨entriesB, holdsB, -⟩ := soundB.held
  have finds : Alongside (AtGates key startA startB) (matchWorkflows company .webhook)
      (matchWorkflows company .webhook)
      (fun candidates other => candidates = other ∧ ∀ w ∈ candidates, w.companyId = company)
      (AtGates key startA startB) := by
    apply Alongside.through
    · apply Alongside.read
      · intro a b gates
        rw [gates.first.store, gates.second.store]
        exact Store.workflowsFor_congr holdsA holdsB soundA.intact soundB.intact
          (agree.shares _ owns) .webhook
      · intro a b candidates gates answer w member
        rw [gates.first.store] at answer
        exact ((holdsA.mem_candidates_iff soundA.intact answer).mp member).2.1
    · exact fun _ _ gates => gates.channels agree
    · exact keep
  apply Alongside.bind finds
  · rintro candidates _ ⟨rfl, own⟩
    apply Alongside.pure _ keep
    exact ⟨rfl, fun w found => own w (List.mem_of_find?_eq_some found)⟩
  · exact keep

/-- A call with a key, at two desks that agree on the key. -/
theorem handle_alongside (soundA : startA.store.Sound allowed) (soundB : startB.store.Sound allowed)
    (freshA : startA.FreshIds) (freshB : startB.FreshIds) (agree : AgreesOn key startA startB)
    (clock : startA.source.nanos startA.source.drawn = startB.source.nanos startB.source.drawn)
    (timeout : Nat) (payload : List UInt8) :
    Alongside (fun a b => a = startA ∧ b = startB) (handle timeout (some key) payload)
      (handle timeout (some key) payload) (fun result other => result = other)
      (Finished key startA startB) := by
  have finish : ∀ a b, AtGates key startA startB a b → Finished key startA startB a b :=
    fun _ _ gates => gates.finished agree
  rw [handle_eq]
  apply Alongside.bind (letIn_alongside soundA soundB agree clock payload)
  · rintro ⟨config, alert⟩ _ ⟨rfl, owns⟩
    apply Alongside.bind (Alongside.mapError _ (select_alongside soundA soundB agree owns alert))
    · rintro selected _ ⟨rfl, own⟩
      cases selected with
      | none => exact Alongside.pure rfl finish
      | some w =>
          intro a b gates
          have intactA : a.store.Intact := gates.first.store ▸ soundA.intact
          have intactB : b.store.Intact := gates.second.store ▸ soundB.intact
          have executes := execute_alongside intactA intactB (gates.first.freshIds freshA)
            (gates.second.freshIds freshB) timeout (own w rfl) alert
          obtain ⟨alike, level⟩ := executes a b (gates.inStep agree owns)
          exact ⟨alike, level.finished gates agree owns (agree.owns owns)⟩
    · exact finish
  · exact finish

/-- Two desks that agree on a key answer a call with it alike, at one reading of the clock.
They add the same row, up to its identifier and its creation time, and leave everything
alone that does not belong to an owner of the key, and they agree on the key again. -/
theorem handle_isolated {a b : Desk} (reachableA : a.store.Reachable fun _ => True)
    (reachableB : b.store.Reachable fun _ => True) (freshA : a.FreshIds) (freshB : b.FreshIds)
    (agree : AgreesOn key a b)
    (clock : a.source.nanos a.source.drawn = b.source.nanos b.source.drawn)
    (timeout : Nat) (payload : List UInt8) :
    ((handle timeout (some key) payload).run a).1 = ((handle timeout (some key) payload).run b).1 ∧
      Finished key a b ((handle timeout (some key) payload).run a).2
        ((handle timeout (some key) payload).run b).2 := by
  have calls := handle_alongside reachableA.sound reachableB.sound freshA freshB agree clock timeout
    payload
  obtain ⟨alike, finished⟩ := calls a b ⟨rfl, rfl⟩
  exact ⟨alike.eq, finished⟩

/-- A desk of the year 2026 with one company, whose only workflow opens a work order for
every alert. -/
def shared : Desk :=
  (blank (newYear 2026 isDate_newYear2026)).serve
    [.createCompany "Acme" none, .createConfig (Uuid.ofNat 0),
      .createWorkflow (Uuid.ofNat 0)
        { title := "All alerts", trigger := .webhook, conditions := []
          action := some { Action.empty with taskAction := some .createWorkOrder } }]

/-- A workflow of another company. -/
def foreignWorkflow : Workflow where
  id := Uuid.ofNat 0
  companyId := Uuid.ofNat 1
  title := "Nothing"
  trigger := .webhook
  conditions := []
  action := .empty
  enabled := true
  createdAt := newYear 2026 isDate_newYear2026
  updatedAt := newYear 2026 isDate_newYear2026

/-- The shared desk after another company has added its workflow. -/
def crowded : Desk :=
  { shared with
    store := (shared.store.addWorkflow Uuid.ofNat foreignWorkflow).toOption.getD shared.store }

/-- A payload with the fields that an alert cannot do without. -/
def plainPayload : List UInt8 :=
  let fields := ["alertId", "alertName", "status", "severity"].map fun name => (name, Json.str name)
  (Json.compact (.obj fields)).toUTF8.toList

/-- The call has run a workflow. -/
def hasExecuted : Outcome WebhookError WebhookResult → Bool
  | .done (.executed _ _) => true
  | _ => false

theorem handle_isolated_crowded :
    hasExecuted ((handle 5000 (some (Uuid.ofNat 4).text) plainPayload).run crowded).1 = true ∧
      Finished (Uuid.ofNat 4).text shared crowded
        ((handle 5000 (some (Uuid.ofNat 4).text) plainPayload).run shared).2
        ((handle 5000 (some (Uuid.ofNat 4).text) plainPayload).run crowded).2 := by
  have served : shared.Orderly fun _ => True :=
    (orderly_of_empty rfl rfl fun _ => trivial).serve fun _ _ _ _ => trivial
  have fits : (shared.store.addWorkflow Uuid.ofNat foreignWorkflow).isOk = true := by
    decide +kernel
  have added : shared.store.addWorkflow Uuid.ofNat foreignWorkflow = .ok crowded.store := by
    rw [crowded]
    cases result : shared.store.addWorkflow Uuid.ofNat foreignWorkflow with
    | error _ =>
        rw [result] at fits
        contradiction
    | ok store => rfl
  have reachable : crowded.store.Reachable fun _ => True :=
    served.reachable.step (.addWorkflow added fun _ _ => trivial)
  have foreign : ¬shared.store.Owns (Uuid.ofNat 4).text foreignWorkflow.companyId.text := by
    have others : ∀ row ∈ shared.store.configs, row.companyId ≠ foreignWorkflow.companyId.text := by
      decide +kernel
    rintro ⟨row, member, -, own⟩
    exact others row member own
  have agree : AgreesOn (Uuid.ofNat 4).text shared crowded :=
    agreesOn_addWorkflow served.reachable.sound added foreign
  have freshShared : shared.FreshIds := by
    apply freshIds_of_noTickets
    · exact List.isEmpty_iff.mp (by decide +kernel)
    · exact List.isEmpty_iff.mp (by decide +kernel)
  have freshCrowded : crowded.FreshIds := by
    apply freshIds_of_noTickets
    · exact List.isEmpty_iff.mp (by decide +kernel)
    · exact List.isEmpty_iff.mp (by decide +kernel)
  have executed : hasExecuted
      ((handle 5000 (some (Uuid.ofNat 4).text) plainPayload).run shared).1 = true := by
    decide +kernel
  obtain ⟨same, finished⟩ := handle_isolated served.reachable reachable freshShared freshCrowded
    agree rfl 5000 plainPayload
  rw [same] at executed
  exact ⟨executed, finished⟩

end Gateway

end Caretaker
