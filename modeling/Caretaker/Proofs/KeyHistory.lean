import Caretaker.Admin.WebhookConfigs
import Caretaker.Proofs.Desk.Run
import Caretaker.Proofs.Store.Configs

/-!
# The history of configurations

Companies have their configurations created, their keys replaced, their access switched
off and on, and their configurations removed, in any order.  The history of these calls
says everything about the configurations that there are: the key of a company is the one
that was issued last and not removed since, its flag is the last one set since the
configuration was created, and its creation time is that of the creation.
-/

namespace Caretaker

open Job

/-! ## Calls and their history -/

/-- A call that changes the configuration of a company. -/
inductive ConfigCall where
  | create (company : Uuid)
  | regenerate (company : Uuid)
  | setEnabled (company : Uuid) (enabled : Bool)
  | delete (company : Uuid)

namespace ConfigCall

/-- The company whose configuration is concerned. -/
def company : ConfigCall → Uuid
  | .create owner => owner
  | .regenerate owner => owner
  | .setEnabled owner _ => owner
  | .delete owner => owner

/-- What is done for the call.  All calls but a removal answer with a configuration. -/
def job : ConfigCall → Job WebhookConfigError (Option WebhookConfig)
  | .create owner => do return some (← WebhookConfigs.create owner)
  | .regenerate owner => do return some (← WebhookConfigs.regenerate owner)
  | .setEnabled owner enabled => do return some (← WebhookConfigs.setEnabled owner enabled)
  | .delete owner => do
      WebhookConfigs.delete owner
      return none

end ConfigCall

/-- A call, and how it ended. -/
structure ConfigEvent where
  call : ConfigCall
  outcome : Outcome WebhookConfigError (Option WebhookConfig)

/-- The desk after calls that are made one after the other. -/
def afterCalls : List ConfigCall → Desk → Desk
  | [], desk => desk
  | call :: rest, desk => afterCalls rest (call.job.run desk).2

/-- The history of calls that are made one after the other. -/
def historyOf : List ConfigCall → Desk → List ConfigEvent
  | [], _ => []
  | call :: rest, desk =>
      ⟨call, (call.job.run desk).1⟩ :: historyOf rest (call.job.run desk).2

theorem afterCalls_append (calls later : List ConfigCall) (desk : Desk) :
    afterCalls (calls ++ later) desk = afterCalls later (afterCalls calls desk) := by
  induction calls generalizing desk with
  | nil => rfl
  | cons call rest ih => exact ih _

theorem historyOf_append (calls later : List ConfigCall) (desk : Desk) :
    historyOf (calls ++ later) desk =
      historyOf calls desk ++ historyOf later (afterCalls calls desk) := by
  induction calls generalizing desk with
  | nil => rfl
  | cons call rest ih =>
      rw [List.cons_append, historyOf, historyOf, List.cons_append, ih, afterCalls]

theorem map_call_historyOf (calls : List ConfigCall) (desk : Desk) :
    (historyOf calls desk).map ConfigEvent.call = calls := by
  induction calls generalizing desk with
  | nil => rfl
  | cons call rest ih => rw [historyOf, List.map_cons, ih]

namespace ConfigEvent

/-- The key that the event issues. -/
def issued? : ConfigEvent → Option String
  | ⟨.create _, .done (some config)⟩ => some config.apiKey
  | ⟨.regenerate _, .done (some config)⟩ => some config.apiKey
  | _ => none

/-- What the event reports about the key of its company: that it is a new one, or that there
is none any more. -/
def reportsKey : ConfigEvent → Option (Option String)
  | ⟨.delete _, .done _⟩ => some none
  | event => event.issued?.map some

/-- What the event reports about the flag of its company. -/
def reportsFlag : ConfigEvent → Option (Option Bool)
  | ⟨.create _, .done _⟩ => some (some true)
  | ⟨.setEnabled _ enabled, .done _⟩ => some (some enabled)
  | ⟨.delete _, .done _⟩ => some none
  | _ => none

/-- What the event reports about the creation of the configuration of its company. -/
def reportsCreation : ConfigEvent → Option (Option Calendar.Instant)
  | ⟨.create _, .done (some config)⟩ => some (some config.createdAt)
  | ⟨.delete _, .done _⟩ => some none
  | _ => none

end ConfigEvent

/-- What was reported last about a company. -/
def lastWord {α : Type} (reports : ConfigEvent → Option (Option α)) (company : Uuid)
    (history : List ConfigEvent) : Option α :=
  ((history.filter fun event => event.call.company = company).reverse.findSome? reports).join

/-- The key that was last issued for a company and not removed since. -/
def currentKey : Uuid → List ConfigEvent → Option String :=
  lastWord ConfigEvent.reportsKey

/-- The flag that was last set for a company since its configuration was created. -/
def currentFlag : Uuid → List ConfigEvent → Option Bool :=
  lastWord ConfigEvent.reportsFlag

/-- When the configuration of a company was created. -/
def creationTime : Uuid → List ConfigEvent → Option Calendar.Instant :=
  lastWord ConfigEvent.reportsCreation

/-- All keys that were ever issued, in their order. -/
def issuedKeys (history : List ConfigEvent) : List String :=
  history.filterMap ConfigEvent.issued?

section

variable {α : Type} {reports : ConfigEvent → Option (Option α)} {company : Uuid}
  {history later : List ConfigEvent} {event : ConfigEvent} {key : String}

theorem issuedKeys_cons :
    issuedKeys (event :: history) = event.issued?.toList ++ issuedKeys history := by
  rw [issuedKeys, List.filterMap_cons]
  cases event.issued? <;> rfl

theorem lastWord_append : lastWord reports company (history ++ later) =
    (((later.filter fun event => event.call.company = company).reverse.findSome? reports).or
      ((history.filter fun event => event.call.company = company).reverse.findSome? reports)).join := by
  rw [lastWord, List.filter_append, List.reverse_append, List.findSome?_append]

theorem lastWord_of_other (others : ∀ call ∈ history.map ConfigEvent.call, call.company ≠ company) :
    lastWord reports company history = none := by
  have none_ : (history.filter fun event => event.call.company = company) = [] := by
    simpa using others
  rw [lastWord, none_]
  rfl

/-- An event of the company that reports something has the last word. -/
theorem lastWord_concat (own : event.call.company = company) :
    lastWord reports company (history ++ [event]) =
      (reports event).getD (lastWord reports company history) := by
  rw [lastWord_append, lastWord]
  cases said : reports event <;> simp [own, said]

theorem lastWord_concat_of_other (other : event.call.company ≠ company) :
    lastWord reports company (history ++ [event]) = lastWord reports company history := by
  rw [lastWord_append, lastWord]
  simp [other]

/-- The last word about the key of a company is the key that was issued. -/
theorem ConfigEvent.issued?_of_reportsKey (said : event.reportsKey = some (some key)) :
    event.issued? = some key := by
  obtain ⟨call, outcome⟩ := event
  cases call <;> cases outcome <;> simp_all [ConfigEvent.reportsKey]

/-- A key that is current after more calls, and was issued before them, was not issued
again, and so was current before. -/
theorem currentKey_of_append (distinct : (issuedKeys (history ++ later)).Nodup)
    (issued : key ∈ issuedKeys history) (current : currentKey company (history ++ later) = some key) :
    currentKey company history = some key := by
  rw [currentKey, lastWord_append] at current
  cases reported : (later.filter fun event => event.call.company = company).reverse.findSome?
      ConfigEvent.reportsKey with
  | none =>
      rw [reported, Option.none_or] at current
      exact current
  | some report =>
      rw [reported, Option.some_or, Option.join_some] at current
      obtain ⟨event, member, said⟩ := List.exists_of_findSome?_eq_some reported
      rw [current] at said
      have memberLater : event ∈ later := List.mem_of_mem_filter (List.mem_reverse.mp member)
      have issuedAgain : key ∈ issuedKeys later :=
        List.mem_filterMap.mpr ⟨event, memberLater, ConfigEvent.issued?_of_reportsKey said⟩
      rw [issuedKeys, List.filterMap_append] at distinct
      exact absurd issuedAgain (List.disjoint_of_nodup_append distinct issued)

end

/-! ## What a call does to the configurations -/

/-- The configurations before and after an event. -/
inductive ConfigsChange (configs : List WebhookConfig) :
    ConfigEvent → List WebhookConfig → Prop where
  | refused {call : ConfigCall} {outcome : Outcome WebhookConfigError (Option WebhookConfig)}
      (unfinished : isDone outcome = false) : ConfigsChange configs ⟨call, outcome⟩ configs
  | created {config : WebhookConfig} (absent : configOf configs config.companyId = none)
      (enabled : config.enabled = true) :
      ConfigsChange configs ⟨.create config.companyId, .done (some config)⟩ (configs ++ [config])
  | regenerated {old new : WebhookConfig} (member : old ∈ configs) (renews : Renews old new)
      (enabled : new.enabled = old.enabled) :
      ConfigsChange configs ⟨.regenerate old.companyId, .done (some new)⟩
        (configs.map (supersede new))
  | switched {old new : WebhookConfig} (member : old ∈ configs) (renews : Renews old new)
      (apiKey : new.apiKey = old.apiKey) :
      ConfigsChange configs ⟨.setEnabled old.companyId new.enabled, .done (some new)⟩
        (configs.map (supersede new))
  | removed {company : Uuid} :
      ConfigsChange configs ⟨.delete company, .done none⟩
        (configs.filter fun config => config.companyId != company)

/-- The configurations are what the history tells of them. -/
structure Told (history : List ConfigEvent) (configs : List WebhookConfig) : Prop where
  key : ∀ company, currentKey company history = (configOf configs company).map WebhookConfig.apiKey
  flag : ∀ company, currentFlag company history =
    (configOf configs company).map WebhookConfig.enabled
  creation : ∀ company, creationTime company history =
    (configOf configs company).map WebhookConfig.createdAt

section

variable {history : List ConfigEvent} {event : ConfigEvent} {configs configs' : List WebhookConfig}

/-- The history goes on telling of a part of the configurations when the event reports what
becomes of it. -/
theorem lastWord_told {α : Type} {reports : ConfigEvent → Option (Option α)}
    {view : WebhookConfig → α}
    (told : ∀ company, lastWord reports company history = (configOf configs company).map view)
    (others : ∀ company, company ≠ event.call.company →
      configOf configs' company = configOf configs company)
    (own : (reports event).getD ((configOf configs event.call.company).map view) =
      (configOf configs' event.call.company).map view) (company : Uuid) :
    lastWord reports company (history ++ [event]) = (configOf configs' company).map view := by
  by_cases concerned : event.call.company = company
  · rw [lastWord_concat concerned, told, ← concerned, own]
  · have isOther : company ≠ event.call.company := fun same => concerned same.symm
    rw [lastWord_concat_of_other concerned, told, others company isOther]

variable {s : Store}

/-- Superseding a configuration concerns its company only. -/
theorem configOf_supersede (has : s.HasConfigs configs) {old new : WebhookConfig}
    (member : old ∈ configs) (renews : Renews old new) :
    configOf configs old.companyId = some old ∧
      configOf (configs.map (supersede new)) old.companyId = some new ∧
      ∀ company, company ≠ old.companyId →
        configOf (configs.map (supersede new)) company = configOf configs company := by
  have stays : ∀ config ∈ configs, (supersede new config).companyId = config.companyId :=
    fun config memberConfig => has.companyId_supersede member renews memberConfig
  have found : configOf configs old.companyId = some old :=
    has.configOf_eq_some_iff.mpr ⟨member, rfl⟩
  refine ⟨found, ?_, ?_⟩
  · rw [configOf_map stays, found, Option.map_some, supersede, if_pos renews.id.symm]
  · intro company isOther
    rw [configOf_map stays]
    cases located : configOf configs company with
    | none => rfl
    | some config =>
        obtain ⟨memberConfig, named⟩ := has.configOf_eq_some_iff.mp located
        rcases has.supersede_of_mem member renews memberConfig with ⟨rfl, -⟩ | ⟨-, same⟩
        · exact absurd named.symm isOther
        · rw [Option.map_some, same]

theorem Told.step (told : Told history configs) (has : s.HasConfigs configs)
    (change : ConfigsChange configs event configs') : Told (history ++ [event]) configs' := by
  cases change with
  | @refused call outcome unfinished =>
      have others : ∀ company, company ≠ (ConfigEvent.mk call outcome).call.company →
          configOf configs company = configOf configs company := fun _ _ => rfl
      cases outcome with
      | done answer => cases unfinished
      | failed error =>
          exact ⟨lastWord_told told.key others (by cases call <;> rfl),
            lastWord_told told.flag others (by cases call <;> rfl),
            lastWord_told told.creation others (by cases call <;> rfl)⟩
      | stalled =>
          exact ⟨lastWord_told told.key others (by cases call <;> rfl),
            lastWord_told told.flag others (by cases call <;> rfl),
            lastWord_told told.creation others (by cases call <;> rfl)⟩
  | @created config absent enabled =>
      have others : ∀ company, company ≠ config.companyId →
          configOf (configs ++ [config]) company = configOf configs company :=
        fun _ isOther => configOf_concat_of_ne isOther
      have own := configOf_concat_of_none absent
      refine ⟨lastWord_told told.key others ?_, lastWord_told told.flag others ?_,
        lastWord_told told.creation others ?_⟩
      · exact (congrArg (Option.map WebhookConfig.apiKey) own).symm
      · rw [ConfigCall.company, own, Option.map_some, enabled]
        rfl
      · exact (congrArg (Option.map WebhookConfig.createdAt) own).symm
  | @regenerated old new member renews enabled =>
      obtain ⟨before, own, others⟩ := configOf_supersede has member renews
      refine ⟨lastWord_told told.key others ?_, lastWord_told told.flag others ?_,
        lastWord_told told.creation others ?_⟩
      · rw [ConfigCall.company, own]
        rfl
      · rw [ConfigCall.company, own, before, Option.map_some, Option.map_some, enabled]
        rfl
      · rw [ConfigCall.company, own, before, Option.map_some, Option.map_some, renews.createdAt]
        rfl
  | @switched old new member renews apiKey =>
      obtain ⟨before, own, others⟩ := configOf_supersede has member renews
      refine ⟨lastWord_told told.key others ?_, lastWord_told told.flag others ?_,
        lastWord_told told.creation others ?_⟩
      · rw [ConfigCall.company, own, before, Option.map_some, Option.map_some, apiKey]
        rfl
      · rw [ConfigCall.company, own]
        rfl
      · rw [ConfigCall.company, own, before, Option.map_some, Option.map_some, renews.createdAt]
        rfl
  | @removed company =>
      have others : ∀ other, other ≠ company →
          configOf (configs.filter fun config => config.companyId != company) other =
            configOf configs other := fun _ isOther => configOf_filter_of_ne isOther
      refine ⟨lastWord_told told.key others ?_, lastWord_told told.flag others ?_,
        lastWord_told told.creation others ?_⟩
      all_goals
        rw [ConfigCall.company, configOf_filter_self]
        rfl

end

end Caretaker
