import Caretaker.Proofs.GateOrder
import Caretaker.Proofs.KeyHistory
import Caretaker.Proofs.Operations
import Mathlib.Data.Set.Function
import Mathlib.Order.Interval.Set.Defs

/-!
# The life of a key

At a desk in order, every call that changes a configuration does what its event says, and
so what the desk answers about configurations is what the history of all calls tells.

A key that was replaced or removed is therefore dead.  As long as no key is issued twice,
it is never resolved again, whatever calls follow.  Every key that is issued was drawn from
the source, so none is issued twice if the source gives no identifier twice.
-/

namespace Caretaker

open Job

/-! ## Making the calls -/

/-- The company is stored and can be read. -/
def Store.Knows (s : Store) (company : Uuid) : Prop :=
  ∃ found, s.findCompany company = .ok (some found)

/-- A desk in order with these configurations, each of a company that is known. -/
structure Desk.Ready (desk : Desk) (configs : List WebhookConfig) : Prop where
  has : desk.store.HasConfigs configs
  known : ∀ config ∈ configs, desk.store.Knows config.companyId
  intact : desk.store.Intact
  working : desk.outages = []
  clock : ∀ n, (desk.source.now n).Legible

/-- The desk after drawing from its source. -/
def Desk.drawing (desk : Desk) (count : Nat) : Desk :=
  { desk with source := { desk.source with drawn := desk.source.drawn + count } }

/-- The texts of the identifiers that would be drawn next. -/
def Source.draws (source : Source) (count : Nat) : List String :=
  (List.range' source.drawn count).map fun n => (source.id n).text

/-- The configuration that would be created next. -/
def Desk.nextConfig (desk : Desk) (company : Uuid) : WebhookConfig where
  id := desk.source.id (desk.source.drawn + 1)
  companyId := company
  apiKey := (desk.source.id (desk.source.drawn + 2)).text
  enabled := true
  createdAt := desk.source.now desk.source.drawn
  updatedAt := desk.source.now desk.source.drawn

/-- The configuration with the key that would be issued next. -/
def Desk.rekeyed (desk : Desk) (config : WebhookConfig) : WebhookConfig :=
  { config with
    apiKey := (desk.source.id desk.source.drawn).text
    updatedAt := desk.source.now (desk.source.drawn + 1) }

/-- The configuration with another flag. -/
def Desk.switched (desk : Desk) (config : WebhookConfig) (enabled : Bool) : WebhookConfig :=
  { config with enabled, updatedAt := desk.source.now desk.source.drawn }

theorem Source.mem_draws (source : Source) (n : Nat) {count : Nat} (early : n < count) :
    (source.id (source.drawn + n)).text ∈ source.draws count :=
  List.mem_map_of_mem (List.mem_range'_1.mpr
    ⟨Nat.le_add_right _ _, Nat.add_lt_add_left early _⟩)

theorem Desk.enabled_rekeyed (desk : Desk) (config : WebhookConfig) :
    (desk.rekeyed config).enabled = config.enabled := by
  rw [Desk.rekeyed]

theorem Desk.apiKey_switched (desk : Desk) (config : WebhookConfig) (enabled : Bool) :
    (desk.switched config enabled).apiKey = config.apiKey := by
  rw [Desk.switched]

namespace Desk.Ready

variable {desk : Desk} {configs configs' : List WebhookConfig} {company : Uuid}

theorem drawing (ready : desk.Ready configs) (count : Nat) : (desk.drawing count).Ready configs where
  has := ready.has
  known := ready.known
  intact := ready.intact
  working := ready.working
  clock := ready.clock

/-- Only the configurations of the store have changed. -/
theorem write (ready : desk.Ready configs) {store : Store} (has : store.HasConfigs configs')
    (rest : store = { desk.store with configs := store.configs })
    (known : ∀ config ∈ configs', desk.store.Knows config.companyId) :
    { desk with store := store }.Ready configs' where
  has := has
  known config member := by
    obtain ⟨found, answer⟩ := known config member
    refine ⟨found, ?_⟩
    dsimp only
    rw [rest]
    exact answer
  intact := by
    dsimp only
    rw [rest]
    exact ready.intact
  working := ready.working
  clock := ready.clock

theorem channel (ready : desk.Ready configs) (channel : Channel) :
    desk.outages.lookup channel = none := by
  rw [ready.working]
  rfl

theorem run_findConfigOf (ready : desk.Ready configs) (company : Uuid) :
    (Desk.findConfigOf company).run desk = (.done (configOf configs company), desk) := by
  rw [Desk.findConfigOf, run_through (ready.channel _), run_read,
    ready.has.findConfigOf_eq ready.intact]

theorem run_findConfigByKey (ready : desk.Ready configs) (key : String) :
    (Desk.findConfigByKey key).run desk = (.done (configWith configs key), desk) := by
  rw [Desk.findConfigByKey, run_through (ready.channel _), run_read,
    ready.has.findConfigByKey_eq ready.intact]

theorem run_resolve (ready : desk.Ready configs) (key : String) :
    (WebhookConfigs.resolve key).run desk = (.done (configWith configs key), desk) := by
  rw [WebhookConfigs.resolve, run_mapError, ready.run_findConfigByKey]

theorem run_get (ready : desk.Ready configs) (company : Uuid) :
    (WebhookConfigs.get company).run desk = match configOf configs company with
      | some config => (.done config, desk)
      | none => (.failed .notFound, desk) := by
  rw [WebhookConfigs.get, run_bind, run_mapError, ready.run_findConfigOf]
  cases configOf configs company <;> rfl

/-! ### Creating -/

theorem run_create_of_unknown (ready : desk.Ready configs)
    (unknown : desk.store.findCompany company = .ok none) :
    (WebhookConfigs.create company).run desk = (.failed .companyNotFound, desk) := by
  rw [WebhookConfigs.create, run_bind, run_mapError, Desk.findCompany,
    run_through (ready.channel _), run_read, unknown]
  rfl

theorem run_create_of_existing (ready : desk.Ready configs) {config : WebhookConfig}
    (existing : configOf configs company = some config) :
    (WebhookConfigs.create company).run desk = (.failed .alreadyExists, desk) := by
  obtain ⟨member, own⟩ := ready.has.configOf_eq_some_iff.mp existing
  obtain ⟨found, answer⟩ := ready.known config member
  rw [own] at answer
  rw [WebhookConfigs.create, run_bind, run_mapError, Desk.findCompany,
    run_through (ready.channel _), run_read, answer]
  dsimp only
  rw [run_bind, run_mapError, ready.run_findConfigOf, existing]
  rfl

/-- Writing to the store and answering with a configuration. -/
theorem run_stored (ready : desk.Ready configs) (channel : Channel)
    (f : Store → Except StoreError Store) (config : WebhookConfig)
    (report : StoreError → WebhookConfigError) :
    ((through channel (do Job.write f; return config)).mapError report).run desk =
      match f desk.store with
      | .ok store => (.done config, { desk with store := store })
      | .error error => (.failed (report error), desk) := by
  rw [run_mapError, run_through (ready.channel _), run_bind, run_write]
  cases f desk.store <;> rfl

/-- A company without a configuration is given a new one, if the store takes it. -/
theorem run_create_of_absent (ready : desk.Ready configs) (knows : desk.store.Knows company)
    (absent : configOf configs company = none) :
    (WebhookConfigs.create company).run desk =
      match desk.store.addConfig (desk.nextConfig company) with
      | .ok store => (.done (desk.nextConfig company), { desk.drawing 3 with store := store })
      | .error error => (.failed (.ofCreation error), desk.drawing 3) := by
  obtain ⟨found, answer⟩ := knows
  rw [WebhookConfigs.create, run_bind, run_mapError, Desk.findCompany,
    run_through (ready.channel _), run_read, answer]
  dsimp only
  rw [run_bind, run_mapError, ready.run_findConfigOf, absent]
  exact (ready.drawing 3).run_stored .createConfig (fun s => s.addConfig (desk.nextConfig company))
    (desk.nextConfig company) .ofCreation

/-! ### Replacing the key, switching and removing -/

theorem run_regenerate_of_existing (ready : desk.Ready configs) {config : WebhookConfig}
    (existing : configOf configs company = some config) :
    (WebhookConfigs.regenerate company).run desk =
      match desk.store.updateConfig (desk.rekeyed config) with
      | .ok store => (.done (desk.rekeyed config), { desk.drawing 2 with store := store })
      | .error error => (.failed (.ofStore error), desk.drawing 2) := by
  rw [WebhookConfigs.regenerate, run_bind, ready.run_get, existing]
  exact (ready.drawing 2).run_stored .updateConfig (fun s => s.updateConfig (desk.rekeyed config))
    (desk.rekeyed config) .ofStore

theorem run_setEnabled_of_existing (ready : desk.Ready configs) {config : WebhookConfig}
    (existing : configOf configs company = some config) (enabled : Bool) :
    (WebhookConfigs.setEnabled company enabled).run desk =
      match desk.store.updateConfig (desk.switched config enabled) with
      | .ok store =>
          (.done (desk.switched config enabled), { desk.drawing 1 with store := store })
      | .error error => (.failed (.ofStore error), desk.drawing 1) := by
  rw [WebhookConfigs.setEnabled, run_bind, ready.run_get, existing]
  exact (ready.drawing 1).run_stored .updateConfig
    (fun s => s.updateConfig (desk.switched config enabled)) (desk.switched config enabled) .ofStore

theorem run_delete (ready : desk.Ready configs) (company : Uuid) :
    (WebhookConfigs.delete company).run desk =
      match desk.store.removeConfigOf company with
      | .ok (true, store) => (.done (), { desk with store := store })
      | .ok (false, store) => (.failed .notFound, { desk with store := store })
      | .error error => (.failed (.ofStore error), desk) := by
  rw [WebhookConfigs.delete, run_bind, run_mapError, Desk.deleteConfigOf,
    run_through (ready.channel _), run_change]
  cases desk.store.removeConfigOf company with
  | error error => rfl
  | ok removed =>
      obtain ⟨found, store⟩ := removed
      cases found <;> rfl

end Desk.Ready

/-! ## One call -/

/-- Between two desks the source was drawn from, and the keys are among the identifiers
that it gave, in the order in which it gave them. -/
def DrawsKeys (desk : Desk) (keys : List String) (left : Desk) : Prop :=
  ∃ count, left.source = (desk.drawing count).source ∧ keys.Sublist (desk.source.draws count)

/-- What a call has done: how the configurations have changed, that the desk is in order with
those that there are now, and that a key that was issued was drawn. -/
structure Performed (desk : Desk) (configs : List WebhookConfig) (call : ConfigCall)
    (result : Outcome WebhookConfigError (Option WebhookConfig) × Desk)
    (configs' : List WebhookConfig) : Prop where
  change : ConfigsChange configs ⟨call, result.1⟩ configs'
  ready : result.2.Ready configs'
  drawn : DrawsKeys desk (ConfigEvent.mk call result.1).issued?.toList result.2

section

variable {desk left : Desk} {configs configs' : List WebhookConfig}

/-- A call that fails has changed no configuration and issued no key. -/
theorem performed_of_failed {call : ConfigCall} {error : WebhookConfigError}
    (failed : call.job.run desk = (.failed error, left)) (ready : left.Ready configs)
    (drawn : ∃ count, left.source = (desk.drawing count).source) :
    ∃ configs', Performed desk configs call (call.job.run desk) configs' := by
  obtain ⟨count, source⟩ := drawn
  rw [failed]
  refine ⟨configs, .refused rfl, ready, count, source, ?_⟩
  have silent : (ConfigEvent.mk call (.failed error)).issued? = none := by cases call <;> rfl
  rw [silent]
  exact List.nil_sublist _

/-- A configuration that the store has taken is added to the others. -/
theorem performed_create {company : Uuid} {store : Store} (ready : desk.Ready configs)
    (knows : desk.store.Knows company) (absent : configOf configs company = none)
    (added : desk.store.addConfig (desk.nextConfig company) = .ok store) :
    Performed desk configs (.create company) ((ConfigCall.create company).job.run desk)
      (configs ++ [desk.nextConfig company]) := by
  have legible : AllLegible (desk.nextConfig company).instants := by
    rw [WebhookConfig.instants, allLegible_cons, allLegible_cons]
    exact ⟨ready.clock _, ready.clock _, allLegible_nil⟩
  obtain ⟨has, rest⟩ := ready.has.addConfig legible added
  have run : (ConfigCall.create company).job.run desk =
      (.done (some (desk.nextConfig company)), { desk.drawing 3 with store := store }) := by
    rw [ConfigCall.job, run_bind, ready.run_create_of_absent knows absent, added]
    rfl
  constructor
  · rw [run]
    exact @ConfigsChange.created configs (desk.nextConfig company) absent rfl
  · rw [run]
    apply (ready.drawing 3).write has rest
    intro config member
    rcases List.mem_append.mp member with old | isNew
    · exact ready.known config old
    · rw [List.mem_singleton.mp isNew]
      exact knows
  · rw [run]
    exact ⟨3, rfl, List.singleton_sublist.mpr (desk.source.mem_draws 2 (by decide))⟩

/-- A configuration that the store has written over the one that it renews supersedes it. -/
theorem performed_update {call : ConfigCall} {old new : WebhookConfig} {count : Nat}
    (ready : desk.Ready configs) (member : old ∈ configs) (renews : Renews old new)
    (change : ConfigsChange configs ⟨call, .done (some new)⟩ (configs.map (supersede new)))
    (issued : (ConfigEvent.mk call (.done (some new))).issued?.toList.Sublist
      (desk.source.draws count))
    (run : call.job.run desk = match desk.store.updateConfig new with
      | .ok store => (.done (some new), { desk.drawing count with store := store })
      | .error error => (.failed (.ofStore error), desk.drawing count)) :
    ∃ configs', Performed desk configs call (call.job.run desk) configs' := by
  cases written : desk.store.updateConfig new with
  | error error =>
      rw [written] at run
      exact performed_of_failed run (ready.drawing count) ⟨count, rfl⟩
  | ok store =>
      rw [written] at run
      obtain ⟨has, rest⟩ := ready.has.updateConfig member renews written
      refine ⟨configs.map (supersede new), ?_, ?_, ?_⟩
      · rw [run]
        exact change
      · rw [run]
        apply (ready.drawing count).write has rest
        rw [List.forall_mem_map]
        intro other memberOther
        rw [ready.has.companyId_supersede member renews memberOther]
        exact ready.known other memberOther
      · rw [run]
        exact ⟨count, rfl, issued⟩

theorem perform_create (ready : desk.Ready configs) (company : Uuid) :
    ∃ configs', Performed desk configs (.create company) ((ConfigCall.create company).job.run desk)
      configs' := by
  have refused {error : WebhookConfigError} {left : Desk} (readyLeft : left.Ready configs)
      (failed : (WebhookConfigs.create company).run desk = (.failed error, left))
      (drawn : ∃ count, left.source = (desk.drawing count).source) :
      ∃ configs', Performed desk configs (.create company) ((ConfigCall.create company).job.run desk)
        configs' :=
    performed_of_failed (by rw [ConfigCall.job, run_bind, failed]) readyLeft drawn
  cases answer : desk.store.findCompany company with
  | error error =>
      have failed : (WebhookConfigs.create company).run desk = (.failed (.ofStore error), desk) := by
        rw [WebhookConfigs.create, run_bind, run_mapError, Desk.findCompany,
          run_through (ready.channel _), run_read, answer]
      exact refused ready failed ⟨0, rfl⟩
  | ok found =>
      cases found with
      | none => exact refused ready (ready.run_create_of_unknown answer) ⟨0, rfl⟩
      | some found =>
          have knows : desk.store.Knows company := ⟨found, answer⟩
          cases existing : configOf configs company with
          | some config => exact refused ready (ready.run_create_of_existing existing) ⟨0, rfl⟩
          | none =>
              cases added : desk.store.addConfig (desk.nextConfig company) with
              | error error =>
                  have run := ready.run_create_of_absent knows existing
                  rw [added] at run
                  exact refused (ready.drawing 3) run ⟨3, rfl⟩
              | ok store => exact ⟨_, performed_create ready knows existing added⟩

/-- A call that needs a configuration fails when there is none. -/
theorem run_get_of_none (ready : desk.Ready configs) {company : Uuid}
    (absent : configOf configs company = none) :
    (WebhookConfigs.get company).run desk = (.failed .notFound, desk) := by
  rw [ready.run_get, absent]

theorem perform_regenerate (ready : desk.Ready configs) (company : Uuid) :
    ∃ configs', Performed desk configs (.regenerate company)
      ((ConfigCall.regenerate company).job.run desk) configs' := by
  cases existing : configOf configs company with
  | none =>
      have failed : (ConfigCall.regenerate company).job.run desk = (.failed .notFound, desk) := by
        rw [ConfigCall.job, run_bind, WebhookConfigs.regenerate, run_bind,
          run_get_of_none ready existing]
      exact performed_of_failed failed ready ⟨0, rfl⟩
  | some old =>
      obtain ⟨member, rfl⟩ := ready.has.configOf_eq_some_iff.mp existing
      have renews : Renews old (desk.rekeyed old) :=
        renews_of_legible (ready.has.legible old member) (ready.clock _) _ _
      have change : ConfigsChange configs
          ⟨.regenerate old.companyId, .done (some (desk.rekeyed old))⟩
          (configs.map (supersede (desk.rekeyed old))) :=
        .regenerated member renews (desk.enabled_rekeyed old)
      have run : (ConfigCall.regenerate old.companyId).job.run desk =
          match desk.store.updateConfig (desk.rekeyed old) with
          | .ok store => (.done (some (desk.rekeyed old)), { desk.drawing 2 with store := store })
          | .error error => (.failed (.ofStore error), desk.drawing 2) := by
        rw [ConfigCall.job, run_bind, ready.run_regenerate_of_existing existing]
        cases desk.store.updateConfig (desk.rekeyed old) <;> rfl
      have issued : [(desk.rekeyed old).apiKey].Sublist (desk.source.draws 2) :=
        List.singleton_sublist.mpr (desk.source.mem_draws 0 (by decide))
      exact performed_update ready member renews change issued run

theorem perform_setEnabled (ready : desk.Ready configs) (company : Uuid) (enabled : Bool) :
    ∃ configs', Performed desk configs (.setEnabled company enabled)
      ((ConfigCall.setEnabled company enabled).job.run desk) configs' := by
  cases existing : configOf configs company with
  | none =>
      have failed : (ConfigCall.setEnabled company enabled).job.run desk =
          (.failed .notFound, desk) := by
        rw [ConfigCall.job, run_bind, WebhookConfigs.setEnabled, run_bind,
          run_get_of_none ready existing]
      exact performed_of_failed failed ready ⟨0, rfl⟩
  | some old =>
      obtain ⟨member, rfl⟩ := ready.has.configOf_eq_some_iff.mp existing
      have renews : Renews old (desk.switched old enabled) :=
        renews_of_legible (ready.has.legible old member) (ready.clock _) _ _
      have change : ConfigsChange configs
          ⟨.setEnabled old.companyId enabled, .done (some (desk.switched old enabled))⟩
          (configs.map (supersede (desk.switched old enabled))) :=
        .switched member renews (desk.apiKey_switched old enabled)
      have run : (ConfigCall.setEnabled old.companyId enabled).job.run desk =
          match desk.store.updateConfig (desk.switched old enabled) with
          | .ok store =>
              (.done (some (desk.switched old enabled)), { desk.drawing 1 with store := store })
          | .error error => (.failed (.ofStore error), desk.drawing 1) := by
        rw [ConfigCall.job, run_bind, ready.run_setEnabled_of_existing existing]
        cases desk.store.updateConfig (desk.switched old enabled) <;> rfl
      exact performed_update ready member renews change (List.nil_sublist _) run

theorem perform_delete (ready : desk.Ready configs) (company : Uuid) :
    ∃ configs', Performed desk configs (.delete company)
      ((ConfigCall.delete company).job.run desk) configs' := by
  have run := ready.run_delete company
  cases removed : desk.store.removeConfigOf company with
  | error error =>
      rw [removed] at run
      have failed : (ConfigCall.delete company).job.run desk = (.failed (.ofStore error), desk) := by
        rw [ConfigCall.job, run_bind, run]
      exact performed_of_failed failed ready ⟨0, rfl⟩
  | ok result =>
      obtain ⟨found, store⟩ := result
      obtain ⟨isFound, has, rest⟩ := ready.has.removeConfigOf ready.intact removed
      have after : { desk with store := store }.Ready
          (configs.filter fun config => config.companyId != company) :=
        ready.write has rest fun config member => ready.known config (List.mem_of_mem_filter member)
      rw [removed] at run
      cases found with
      | true =>
          have done : (ConfigCall.delete company).job.run desk =
              (.done none, { desk with store := store }) := by
            rw [ConfigCall.job, run_bind, run]
            rfl
          rw [done]
          exact ⟨_, .removed, after, 0, rfl, List.nil_sublist _⟩
      | false =>
          have failed : (ConfigCall.delete company).job.run desk =
              (.failed .notFound, { desk with store := store }) := by
            rw [ConfigCall.job, run_bind, run]
          have absent : configOf configs company = none := Option.isSome_eq_false_iff.mp isFound.symm |>
            Option.isNone_iff_eq_none.mp
          rw [filter_of_configOf_none absent] at after
          exact performed_of_failed failed after ⟨0, rfl⟩

/-- Every call leaves the desk in order, with configurations that have changed as its event
says. -/
theorem perform (ready : desk.Ready configs) (call : ConfigCall) :
    ∃ configs', Performed desk configs call (call.job.run desk) configs' := by
  cases call with
  | create company => exact perform_create ready company
  | regenerate company => exact perform_regenerate ready company
  | setEnabled company enabled => exact perform_setEnabled ready company enabled
  | delete company => exact perform_delete ready company

end

/-! ## Issued keys -/

section

variable {desk middle left : Desk} {keys more : List String}

/-- What is drawn in two goes is drawn in one. -/
theorem Desk.draws_add (desk : Desk) (count more : Nat) :
    desk.source.draws (count + more) =
      desk.source.draws count ++ (desk.drawing count).source.draws more := by
  rw [Source.draws, ← List.range'_append_1, List.map_append]
  rfl

theorem DrawsKeys.append (first : DrawsKeys desk keys middle)
    (second : DrawsKeys middle more left) : DrawsKeys desk (keys ++ more) left := by
  obtain ⟨count, source, within⟩ := first
  obtain ⟨later, sourceLater, withinLater⟩ := second
  rw [Desk.drawing, source] at sourceLater
  rw [source] at withinLater
  refine ⟨count + later, ?_, ?_⟩
  · rw [sourceLater, Desk.drawing, Desk.drawing, ← Nat.add_assoc]
  · rw [desk.draws_add]
    exact within.append withinLater

/-- If the source gives no identifier twice meanwhile, no key is issued twice. -/
theorem DrawsKeys.nodup (drawn : DrawsKeys desk keys left)
    (distinct : Set.InjOn desk.source.id (Set.Ico desk.source.drawn left.source.drawn)) :
    keys.Nodup := by
  obtain ⟨count, source, within⟩ := drawn
  rw [source] at distinct
  apply List.Nodup.sublist within
  apply List.Nodup.map_on _ List.nodup_range'
  intro m first n second same
  exact distinct (List.mem_range'_1.mp first) (List.mem_range'_1.mp second) (Uuid.text_inj.mp same)

/-- Whatever calls are made, the keys that they issue are drawn from the source, in their
order. -/
theorem Desk.Ready.drawsKeys {configs : List WebhookConfig} (ready : desk.Ready configs)
    (calls : List ConfigCall) :
    DrawsKeys desk (issuedKeys (historyOf calls desk)) (afterCalls calls desk) := by
  induction calls generalizing desk configs with
  | nil => exact ⟨0, rfl, List.nil_sublist _⟩
  | cons call rest ih =>
      obtain ⟨configs', performed⟩ := perform ready call
      rw [historyOf, issuedKeys_cons]
      exact performed.drawn.append (ih performed.ready)

end

/-! ## All calls -/

/-- The desk is in order, with the configurations that the history tells of. -/
structure Ledger (history : List ConfigEvent) (configs : List WebhookConfig) (desk : Desk) :
    Prop where
  ready : desk.Ready configs
  told : Told history configs

section

variable {history : List ConfigEvent} {configs configs' : List WebhookConfig} {desk : Desk}

theorem ledger_nil (blank : desk.store.configs = []) (intact : desk.store.Intact)
    (working : desk.outages = []) (clock : ∀ n, (desk.source.now n).Legible) :
    Ledger [] [] desk where
  ready := {
    has := ⟨blank, by simp, by simp, by simp, by simp⟩
    known := by simp
    intact := intact
    working := working
    clock := clock }
  told := ⟨fun _ => rfl, fun _ => rfl, fun _ => rfl⟩

/-- One call keeps the history and the configurations together. -/
theorem Ledger.step (ledger : Ledger history configs desk) (call : ConfigCall) :
    ∃ configs', Ledger (history ++ [⟨call, (call.job.run desk).1⟩]) configs'
      (call.job.run desk).2 := by
  obtain ⟨configs', performed⟩ := perform ledger.ready call
  exact ⟨configs', performed.ready, ledger.told.step ledger.ready.has performed.change⟩

/-- So does every sequence of calls. -/
theorem Ledger.run (ledger : Ledger history configs desk) (calls : List ConfigCall) :
    ∃ configs', Ledger (history ++ historyOf calls desk) configs' (afterCalls calls desk) := by
  induction calls generalizing history configs desk with
  | nil =>
      rw [historyOf, List.append_nil]
      exact ⟨configs, ledger⟩
  | cons call rest ih =>
      obtain ⟨between, ledgerThen⟩ := ledger.step call
      obtain ⟨configs', ledgerAfter⟩ := ih ledgerThen
      rw [List.append_assoc, List.singleton_append] at ledgerAfter
      exact ⟨configs', ledgerAfter⟩

/-! ## What the history determines -/

/-- The configuration that a call answers with is the one of its company from then on. -/
theorem ConfigsChange.configOf_of_answer {event : ConfigEvent} {s : Store}
    (change : ConfigsChange configs event configs') (has : s.HasConfigs configs)
    {config : WebhookConfig} (answered : event.outcome = .done (some config)) :
    config.companyId = event.call.company ∧ configOf configs' event.call.company = some config := by
  cases change with
  | refused unfinished =>
      dsimp only at answered
      rw [answered] at unfinished
      cases unfinished
  | created absent enabled =>
      cases answered
      exact ⟨rfl, configOf_concat_of_none absent⟩
  | regenerated member renews enabled =>
      cases answered
      exact ⟨renews.company, (configOf_supersede has member renews).2.1⟩
  | switched member renews apiKey =>
      cases answered
      exact ⟨renews.company, (configOf_supersede has member renews).2.1⟩
  | removed => cases answered

/-- What the desk answers about configurations, and how that follows from the history. -/
structure Answers (history : List ConfigEvent) (desk : Desk) : Prop where
  resolved : ∀ key company, (∃ config, config.companyId = company ∧
    (WebhookConfigs.resolve key).run desk = (.done (some config), desk)) ↔
      currentKey company history = some key
  unresolved : ∀ key, (∀ company, currentKey company history ≠ some key) →
    (WebhookConfigs.resolve key).run desk = (.done none, desk)
  got : ∀ company config, (WebhookConfigs.get company).run desk = (.done config, desk) ↔
    config.companyId = company ∧
      (WebhookConfigs.resolve config.apiKey).run desk = (.done (some config), desk)
  content : ∀ company config, (WebhookConfigs.get company).run desk = (.done config, desk) →
    currentKey company history = some config.apiKey ∧
      currentFlag company history = some config.enabled ∧
      creationTime company history = some config.createdAt
  single : ∀ company : Uuid,
    (desk.store.configs.filter fun row => row.companyId == company.text).length ≤ 1
  existing : ∀ company : Uuid, (∃ row ∈ desk.store.configs, row.companyId = company.text) →
    (WebhookConfigs.create company).run desk = (.failed .alreadyExists, desk)
  unknown : ∀ company : Uuid, (∀ row ∈ desk.store.companies, row.id ≠ company.text) →
    (WebhookConfigs.create company).run desk = (.failed .companyNotFound, desk)
  answered : ∀ (call : ConfigCall) config later,
    call.job.run desk = (.done (some config), later) →
      config.companyId = call.company ∧
        (WebhookConfigs.get call.company).run later = (.done config, later)

theorem Ledger.run_resolve_iff (ledger : Ledger history configs desk) {key : String}
    {config : WebhookConfig} :
    (WebhookConfigs.resolve key).run desk = (.done (some config), desk) ↔
      config ∈ configs ∧ config.apiKey = key := by
  rw [ledger.ready.run_resolve, ← ledger.ready.has.configWith_eq_some_iff]
  simp

theorem Ledger.run_get_iff (ledger : Ledger history configs desk) {company : Uuid}
    {config : WebhookConfig} :
    (WebhookConfigs.get company).run desk = (.done config, desk) ↔
      config ∈ configs ∧ config.companyId = company := by
  rw [ledger.ready.run_get, ← ledger.ready.has.configOf_eq_some_iff]
  cases configOf configs company <;> simp

/-- The current keys are those of the configurations. -/
theorem Ledger.currentKey_iff (ledger : Ledger history configs desk) {company : Uuid}
    {key : String} :
    currentKey company history = some key ↔
      ∃ config ∈ configs, config.companyId = company ∧ config.apiKey = key := by
  rw [ledger.told.key, Option.map_eq_some_iff]
  simp only [ledger.ready.has.configOf_eq_some_iff, and_assoc]

theorem Ledger.answers (ledger : Ledger history configs desk) : Answers history desk := by
  have has := ledger.ready.has
  constructor
  · intro key company
    rw [ledger.currentKey_iff]
    constructor
    · rintro ⟨config, own, run⟩
      obtain ⟨member, named⟩ := ledger.run_resolve_iff.mp run
      exact ⟨config, member, own, named⟩
    · rintro ⟨config, member, own, named⟩
      exact ⟨config, own, ledger.run_resolve_iff.mpr ⟨member, named⟩⟩
  · intro key retired
    rw [ledger.ready.run_resolve]
    cases located : configWith configs key with
    | none => rfl
    | some config =>
        obtain ⟨member, named⟩ := has.configWith_eq_some_iff.mp located
        have current := ledger.currentKey_iff.mpr ⟨config, member, rfl, named⟩
        exact absurd current (retired config.companyId)
  · intro company config
    rw [ledger.run_get_iff, ledger.run_resolve_iff]
    constructor
    · rintro ⟨member, own⟩
      exact ⟨own, member, rfl⟩
    · rintro ⟨own, member, -⟩
      exact ⟨member, own⟩
  · intro company config run
    have found := has.configOf_eq_some_iff.mpr (ledger.run_get_iff.mp run)
    rw [ledger.told.key, ledger.told.flag, ledger.told.creation, found]
    exact ⟨rfl, rfl, rfl⟩
  · exact has.length_rows_le_one
  · rintro company ⟨row, member, own⟩
    rw [has.rows] at member
    obtain ⟨config, memberConfig, rfl⟩ := List.mem_map.mp member
    exact ledger.ready.run_create_of_existing
      (has.configOf_eq_some_iff.mpr ⟨memberConfig, Uuid.text_inj.mp own⟩)
  · intro company absent
    apply ledger.ready.run_create_of_unknown
    have none_ : (desk.store.companies.find? fun row => row.id == company.text) = none := by
      rw [List.find?_eq_none]
      intro row member
      simpa using absent row member
    rw [Store.findCompany, ledger.ready.intact.require, ok_bind, none_]
    rfl
  · intro call config later run
    obtain ⟨configs', performed⟩ := perform ledger.ready call
    rw [run] at performed
    obtain ⟨own, found⟩ := performed.change.configOf_of_answer has rfl
    refine ⟨own, ?_⟩
    rw [performed.ready.run_get, found]

/-! ## Dead keys -/

/-- How the gateway answers a call with a key that no configuration has. -/
def refusal (key : String) (desk : Desk) : WebhookError :=
  if key = "" then .missingApiKey
  else if (Gateway.askToken key desk).1 then .invalidApiKey
  else .rateLimited

/-- The gateway does not recognise the key, and lets in no call with it. -/
structure TurnsAway (key : String) (desk : Desk) : Prop where
  resolve : (Gateway.resolve key).run desk = (.failed .invalidApiKey, desk)
  handle : ∀ timeout payload, (Gateway.handle timeout (some key) payload).run desk =
    (.failed (refusal key desk), Gateway.atGates (some key) desk)

theorem Desk.Ready.turnsAway (ready : desk.Ready configs) {key : String}
    (absent : configWith configs key = none) : TurnsAway key desk where
  resolve := by
    rw [Gateway.resolve, run_bind, run_mapError, ready.run_findConfigByKey, absent]
    rfl
  handle timeout payload := by
    unfold refusal
    by_cases given : key = ""
    · rw [if_pos given, given]
      rfl
    · rw [if_neg given, Gateway.run_handle_of_key timeout given, Gateway.atGates_of_key given]
      split
      · rw [Gateway.afterToken, run_bind, Gateway.run_resolve, ready.run_findConfigByKey, absent]
        rfl
      · rfl

/-- A key that was issued and is not current is dead: no later call revives it, unless it
is issued again. -/
theorem Ledger.turnsAway (ledger : Ledger history configs desk) {key : String}
    (issued : key ∈ issuedKeys history)
    (retired : ∀ company, currentKey company history ≠ some key) (later : List ConfigCall)
    (distinct : (issuedKeys (history ++ historyOf later desk)).Nodup) :
    TurnsAway key (afterCalls later desk) := by
  obtain ⟨configs', ledgerLater⟩ := ledger.run later
  apply ledgerLater.ready.turnsAway
  cases located : configWith configs' key with
  | none => rfl
  | some config =>
      obtain ⟨member, named⟩ := ledgerLater.ready.has.configWith_eq_some_iff.mp located
      have found := ledgerLater.ready.has.configOf_eq_some_iff.mpr ⟨member, rfl⟩
      have current : currentKey config.companyId (history ++ historyOf later desk) = some key := by
        rw [ledgerLater.told.key, found, Option.map_some, named]
      exact absurd (currentKey_of_append distinct issued current) (retired _)

end

/-- Whatever calls are made from a desk without configurations, their history determines
what the desk answers about configurations.  A key that was replaced or removed is turned
away from then on. -/
theorem keys_live_and_die {start : Desk} (blank : start.store.configs = [])
    (intact : start.store.Intact) (working : start.outages = [])
    (clock : ∀ n, (start.source.now n).Legible) (calls : List ConfigCall) :
    Answers (historyOf calls start) (afterCalls calls start) ∧
      ∀ key ∈ issuedKeys (historyOf calls start),
        (∀ company, currentKey company (historyOf calls start) ≠ some key) →
        ∀ later, (issuedKeys (historyOf (calls ++ later) start)).Nodup →
          TurnsAway key (afterCalls (calls ++ later) start) := by
  obtain ⟨configs, ledger⟩ := (ledger_nil blank intact working clock).run calls
  rw [List.nil_append] at ledger
  refine ⟨ledger.answers, ?_⟩
  intro key issued retired later distinct
  rw [historyOf_append] at distinct
  rw [afterCalls_append]
  exact ledger.turnsAway issued retired later distinct

/-- A desk of the year 2026 with one company and no configuration. -/
def acme : Desk :=
  (Desk.blank (Desk.newYear 2026 Desk.isDate_newYear2026)).serve [.createCompany "Acme" none]

/-- The company is given a key, and then another. -/
def rotation : List ConfigCall :=
  [.create (Uuid.ofNat 0), .regenerate (Uuid.ofNat 0)]

/-- The configuration is removed and created again. -/
def renewal : List ConfigCall :=
  [.delete (Uuid.ofNat 0), .create (Uuid.ofNat 0)]

/-- The first key is turned away as soon as it is replaced, and still is when the
configuration has been removed and created again. -/
theorem keys_live_and_die_acme :
    Answers (historyOf rotation acme) (afterCalls rotation acme) ∧
      TurnsAway (Uuid.ofNat 4).text (afterCalls rotation acme) ∧
        TurnsAway (Uuid.ofNat 4).text (afterCalls (rotation ++ renewal) acme) := by
  have legible : (Desk.newYear 2026 Desk.isDate_newYear2026).Legible := by decide
  have blank : acme.store.configs = [] := List.isEmpty_iff.mp (by decide +kernel)
  obtain ⟨answers, dead⟩ := keys_live_and_die blank rfl rfl (fun _ => legible) rotation
  have issued : (Uuid.ofNat 4).text ∈ issuedKeys (historyOf rotation acme) := by decide +kernel
  have retired : ∀ company,
      currentKey company (historyOf rotation acme) ≠ some (Uuid.ofNat 4).text := by
    intro company
    by_cases own : company = Uuid.ofNat 0
    · rw [own]
      decide +kernel
    · rw [currentKey, lastWord_of_other]
      · exact (Option.some_ne_none _).symm
      · simp [map_call_historyOf, rotation, ConfigCall.company, Ne.symm own]
  -- No key is issued twice, because the source gives no identifier twice so soon.
  have ready := (ledger_nil blank rfl rfl fun _ => legible).ready
  have distinct (calls : List ConfigCall)
      (soon : (afterCalls calls acme).source.drawn ≤ Uuid.count) :
      (issuedKeys (historyOf calls acme)).Nodup := by
    apply (ready.drawsKeys calls).nodup
    intro m first n second same
    exact Uuid.eq_of_ofNat_eq (Nat.lt_of_lt_of_le first.2 soon) (Nat.lt_of_lt_of_le second.2 soon)
      same
  refine ⟨answers, ?_, ?_⟩
  · exact dead _ issued retired [] (distinct rotation (by decide +kernel))
  · exact dead _ issued retired renewal (distinct (rotation ++ renewal) (by decide +kernel))

end Caretaker
