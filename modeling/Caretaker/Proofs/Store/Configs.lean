import Caretaker.Proofs.Store.Assembly
import Caretaker.Store.Tenants

/-!
# Configurations in a store

A store has a list of configurations when its rows are theirs, each can be read back, and
no two have the same identifier, company or key.  Looking up, adding, writing and removing
can then be carried out on the configurations themselves, and what the store allows keeps
them distinct.
-/

namespace Caretaker

/-! ## Configurations by company and by key -/

section

variable {α κ : Type} {key : α → κ} {values : List α}

/-- Under distinct keys, what is found under a key is what has it. -/
theorem find?_key_eq_some_iff [DecidableEq κ] (distinct : (values.map key).Nodup) {k : κ} {value : α} :
    values.find? (fun other => key other == k) = some value ↔ value ∈ values ∧ key value = k := by
  constructor
  · intro found
    have named := List.find?_some found
    exact ⟨List.mem_of_find?_eq_some found, eq_of_beq named⟩
  · rintro ⟨member, rfl⟩
    apply Store.find?_eq_some_of_unique member (beq_self_eq_true (key value))
    intro other memberOther same
    exact List.inj_on_of_nodup_map distinct memberOther member (eq_of_beq same)

/-- Keys stay distinct when values are changed without giving one of them the key of
another. -/
theorem nodup_map_of_change {change : α → α} (distinct : values.Nodup)
    (apart : ∀ a ∈ values, ∀ b ∈ values, key (change a) = key (change b) → a = b) :
    ((values.map change).map key).Nodup := by
  rw [List.map_map]
  exact List.Nodup.map_on apart distinct

end

/-- The configuration of a company. -/
def configOf (configs : List WebhookConfig) (company : Uuid) : Option WebhookConfig :=
  configs.find? fun config => config.companyId == company

/-- The configuration with a key. -/
def configWith (configs : List WebhookConfig) (key : String) : Option WebhookConfig :=
  configs.find? fun config => config.apiKey == key

/-- The new configuration in the place of the one with its identifier. -/
def supersede (new old : WebhookConfig) : WebhookConfig :=
  if old.id = new.id then new else old

/-- The new configuration is the old one, with another key, flag or time of change. -/
structure Renews (old new : WebhookConfig) : Prop where
  id : new.id = old.id
  company : new.companyId = old.companyId
  createdAt : new.createdAt = old.createdAt
  legible : AllLegible new.instants

theorem renews_of_legible {config : WebhookConfig} (legible : AllLegible config.instants)
    {time : Calendar.Instant} (legibleTime : time.Legible) (apiKey : String) (enabled : Bool) :
    Renews config { config with apiKey, enabled, updatedAt := time } := by
  refine ⟨rfl, rfl, rfl, ?_⟩
  rw [WebhookConfig.instants, allLegible_cons] at legible ⊢
  exact ⟨legible.1, allLegible_cons.mpr ⟨legibleTime, allLegible_nil⟩⟩

section

variable {configs : List WebhookConfig} {config : WebhookConfig} {company other : Uuid}

theorem configOf_concat_of_ne (isOther : other ≠ config.companyId) :
    configOf (configs ++ [config]) other = configOf configs other := by
  rw [configOf, List.find?_append, configOf]
  simp [isOther.symm]

theorem configOf_concat_of_none (absent : configOf configs config.companyId = none) :
    configOf (configs ++ [config]) config.companyId = some config := by
  rw [configOf] at absent
  rw [configOf, List.find?_append, absent]
  simp

theorem configOf_map {change : WebhookConfig → WebhookConfig}
    (stays : ∀ config ∈ configs, (change config).companyId = config.companyId) (company : Uuid) :
    configOf (configs.map change) company = (configOf configs company).map change := by
  rw [configOf, List.find?_map, configOf, ← List.head?_filter, ← List.head?_filter]
  congr 2
  apply List.filter_congr
  intro config member
  rw [Function.comp_apply, stays config member]

theorem filter_of_configOf_none (absent : configOf configs company = none) :
    (configs.filter fun config => config.companyId != company) = configs := by
  rw [configOf, List.find?_eq_none] at absent
  rw [List.filter_eq_self]
  intro config member
  simpa using absent config member

theorem configOf_filter_self :
    configOf (configs.filter fun config => config.companyId != company) company = none := by
  rw [configOf, List.find?_eq_none]
  intro config member
  have kept := (List.mem_filter.mp member).2
  simpa using kept

theorem configOf_filter_of_ne (isOther : other ≠ company) :
    configOf (configs.filter fun config => config.companyId != company) other =
      configOf configs other := by
  rw [configOf, List.find?_filter, configOf]
  congr 1
  funext config
  by_cases named : config.companyId = other <;> simp [named, isOther]

end

/-- The store has exactly these configurations. -/
structure Store.HasConfigs (s : Store) (configs : List WebhookConfig) : Prop where
  rows : s.configs = configs.map ConfigRow.ofConfig
  legible : ∀ config ∈ configs, AllLegible config.instants
  ids : (configs.map WebhookConfig.id).Nodup
  owners : (configs.map WebhookConfig.companyId).Nodup
  keys : (configs.map WebhookConfig.apiKey).Nodup

namespace Store.HasConfigs

variable {s s' : Store} {configs : List WebhookConfig} {config new : WebhookConfig}
  {company : Uuid} {key : String}

theorem configOf_eq_some_iff (has : s.HasConfigs configs) :
    configOf configs company = some config ↔ config ∈ configs ∧ config.companyId = company :=
  find?_key_eq_some_iff has.owners

theorem configWith_eq_some_iff (has : s.HasConfigs configs) :
    configWith configs key = some config ↔ config ∈ configs ∧ config.apiKey = key :=
  find?_key_eq_some_iff has.keys

theorem eq_of_id (has : s.HasConfigs configs) {other : WebhookConfig} (member : config ∈ configs)
    (memberOther : other ∈ configs) (same : config.id = other.id) : config = other :=
  List.inj_on_of_nodup_map has.ids member memberOther same

/-- A company has at most one row. -/
theorem length_rows_le_one (has : s.HasConfigs configs) (company : Uuid) :
    (s.configs.filter fun row => row.companyId == company.text).length ≤ 1 := by
  have distinct : (s.configs.map ConfigRow.companyId).Nodup := by
    have texts : s.configs.map ConfigRow.companyId =
        (configs.map WebhookConfig.companyId).map Uuid.text := by
      rw [has.rows, List.map_map, List.map_map]
      rfl
    rw [texts]
    exact has.owners.map Uuid.text_injective
  exact length_filter_key_le_one distinct company.text

/-! ## Looking up -/

/-- The first row that a test picks is read as the first configuration that it picks. -/
theorem readOne_find? (has : s.HasConfigs configs) (picked : ConfigRow → Bool) :
    readOne ConfigRow.config (s.configs.find? picked) =
      .ok (configs.find? fun config => picked (.ofConfig config)) := by
  rw [has.rows, List.find?_map]
  cases located : configs.find? (picked ∘ ConfigRow.ofConfig) with
  | none =>
      rw [show (fun config => picked (.ofConfig config)) = picked ∘ ConfigRow.ofConfig from rfl,
        located]
      rfl
  | some config =>
      have legible := has.legible config (List.mem_of_find?_eq_some located)
      rw [show (fun config => picked (.ofConfig config)) = picked ∘ ConfigRow.ofConfig from rfl,
        located, Option.map_some, readOne,
        ConfigRow.config_ofConfig_eq_ok_iff.mpr ⟨legible, rfl⟩, ok_bind]
      rfl

theorem findConfigOf_eq (has : s.HasConfigs configs) (intact : s.Intact) (company : Uuid) :
    s.findConfigOf company = .ok (configOf configs company) := by
  rw [findConfigOf, intact.require, ok_bind, has.readOne_find?]
  simp only [ConfigRow.ofConfig, Uuid.text_beq_text]
  rfl

theorem findConfigByKey_eq (has : s.HasConfigs configs) (intact : s.Intact) (key : String) :
    s.findConfigByKey key = .ok (configWith configs key) := by
  rw [findConfigByKey, intact.require, ok_bind, has.readOne_find?]
  rfl

/-! ## Adding -/

/-- A configuration that the store takes shares nothing with the others. -/
theorem addConfig (has : s.HasConfigs configs) (legible : AllLegible config.instants)
    (added : s.addConfig config = .ok s') :
    s'.HasConfigs (configs ++ [config]) ∧ s' = { s with configs := s'.configs } := by
  simp only [Store.addConfig, bind_eq_ok_iff, refuse_eq_ok_iff, pure_eq_ok_iff] at added
  obtain ⟨_, -, free, -, rfl⟩ := added
  have apart : ∀ other ∈ configs, other.id ≠ config.id ∧ other.companyId ≠ config.companyId ∧
      other.apiKey ≠ config.apiKey := by
    rw [has.rows, List.any_map, List.any_eq_false] at free
    intro other member
    have distinct := free other member
    simp only [Function.comp_apply, ConfigRow.ofConfig, Uuid.text_beq_text, Bool.or_eq_true,
      decide_eq_true_eq, beq_iff_eq, not_or] at distinct
    exact ⟨distinct.1.1, distinct.1.2, distinct.2⟩
  refine ⟨?_, rfl⟩
  constructor
  · dsimp only
    rw [has.rows, List.map_append, List.map_singleton]
  · intro other member
    rcases List.mem_append.mp member with old | isNew
    · exact has.legible other old
    · rw [List.mem_singleton.mp isNew]
      exact legible
  · exact nodup_map_concat has.ids fun other member => (apart other member).1
  · exact nodup_map_concat has.owners fun other member => (apart other member).2.1
  · exact nodup_map_concat has.keys fun other member => (apart other member).2.2

/-! ## Writing over a configuration -/

/-- Only the configuration itself is superseded. -/
theorem supersede_of_mem (has : s.HasConfigs configs) (member : config ∈ configs)
    (renews : Renews config new) {other : WebhookConfig} (memberOther : other ∈ configs) :
    (other = config ∧ supersede new other = new) ∨
      (other.id ≠ new.id ∧ supersede new other = other) := by
  unfold supersede
  by_cases same : other.id = new.id
  · left
    rw [if_pos same]
    exact ⟨has.eq_of_id memberOther member (same.trans renews.id), rfl⟩
  · right
    rw [if_neg same]
    exact ⟨same, rfl⟩

/-- What the new configuration has in common with the old one is the same after
superseding. -/
theorem supersede_shares (has : s.HasConfigs configs) (member : config ∈ configs)
    (renews : Renews config new) {κ : Type} {key : WebhookConfig → κ}
    (shared : key new = key config) {other : WebhookConfig} (memberOther : other ∈ configs) :
    key (supersede new other) = key other := by
  rcases has.supersede_of_mem member renews memberOther with ⟨rfl, same⟩ | ⟨-, same⟩
  · rw [same, shared]
  · rw [same]

theorem companyId_supersede (has : s.HasConfigs configs) (member : config ∈ configs)
    (renews : Renews config new) {other : WebhookConfig} (memberOther : other ∈ configs) :
    (supersede new other).companyId = other.companyId :=
  has.supersede_shares member renews renews.company memberOther

theorem map_supersede (has : s.HasConfigs configs) (member : config ∈ configs)
    (renews : Renews config new) {κ : Type} {key : WebhookConfig → κ}
    (shared : key new = key config) :
    (configs.map (supersede new)).map key = configs.map key := by
  rw [List.map_map]
  apply List.map_congr_left
  exact fun other memberOther => has.supersede_shares member renews shared memberOther

/-- Keys stay distinct when no other configuration has the new one. -/
theorem keys_supersede (has : s.HasConfigs configs) (member : config ∈ configs)
    (renews : Renews config new)
    (apart : ∀ other ∈ configs, other.id ≠ new.id → other.apiKey ≠ new.apiKey) :
    ((configs.map (supersede new)).map WebhookConfig.apiKey).Nodup := by
  apply nodup_map_of_change (List.Nodup.of_map _ has.ids)
  intro a memberA b memberB sameKey
  rcases has.supersede_of_mem member renews memberA with ⟨isA, sameA⟩ | ⟨differsA, sameA⟩ <;>
    rcases has.supersede_of_mem member renews memberB with ⟨isB, sameB⟩ | ⟨differsB, sameB⟩ <;>
    rw [sameA, sameB] at sameKey
  · rw [isA, isB]
  · exact absurd sameKey.symm (apart b memberB differsB)
  · exact absurd sameKey (apart a memberA differsA)
  · exact List.inj_on_of_nodup_map has.keys memberA memberB sameKey

/-- The row that is written over that of a configuration is that of what supersedes it. -/
theorem row_supersede (has : s.HasConfigs configs) (member : config ∈ configs)
    (renews : Renews config new) {other : WebhookConfig} (memberOther : other ∈ configs) :
    (if (ConfigRow.ofConfig other).id == new.id.text then
      { ConfigRow.ofConfig other with
        apiKey := new.apiKey
        enabled := .ofBool new.enabled
        updatedAt := new.updatedAt.storedText }
    else ConfigRow.ofConfig other) = ConfigRow.ofConfig (supersede new other) := by
  rcases has.supersede_of_mem member renews memberOther with ⟨rfl, same⟩ | ⟨differs, same⟩
  · have named : ((ConfigRow.ofConfig other).id == new.id.text) = true := by
      rw [ConfigRow.ofConfig, renews.id, beq_self_eq_true]
    rw [if_pos named, same, ConfigRow.ofConfig, ConfigRow.ofConfig, renews.id, renews.company,
      renews.createdAt]
  · have unnamed : ¬((ConfigRow.ofConfig other).id == new.id.text) = true := by
      simpa [ConfigRow.ofConfig] using differs
    rw [if_neg unnamed, same]

/-- Writing a configuration over the one that it renews supersedes it, if no other has the
new key. -/
theorem updateConfig (has : s.HasConfigs configs) (member : config ∈ configs)
    (renews : Renews config new) (written : s.updateConfig new = .ok s') :
    s'.HasConfigs (configs.map (supersede new)) ∧ s' = { s with configs := s'.configs } := by
  simp only [Store.updateConfig, bind_eq_ok_iff, refuse_eq_ok_iff, pure_eq_ok_iff] at written
  obtain ⟨_, -, -, free, rfl⟩ := written
  have apart : ∀ other ∈ configs, other.id ≠ new.id → other.apiKey ≠ new.apiKey := by
    rw [has.rows, List.any_map, List.any_eq_false] at free
    intro other memberOther differs sameKey
    have distinct := free other memberOther
    simp only [Function.comp_apply, ConfigRow.ofConfig, Uuid.text_bne_text, sameKey,
      beq_self_eq_true, Bool.and_true, decide_eq_true_eq, not_not] at distinct
    exact differs distinct
  refine ⟨?_, rfl⟩
  constructor
  · dsimp only
    rw [has.rows, List.map_map, List.map_map]
    apply List.map_congr_left
    intro other memberOther
    rw [Function.comp_apply, Function.comp_apply]
    exact has.row_supersede member renews memberOther
  · rw [List.forall_mem_map]
    intro other memberOther
    rcases has.supersede_of_mem member renews memberOther with ⟨rfl, same⟩ | ⟨-, same⟩
    · rw [same]
      exact renews.legible
    · rw [same]
      exact has.legible other memberOther
  · rw [has.map_supersede member renews renews.id]
    exact has.ids
  · rw [has.map_supersede member renews renews.company]
    exact has.owners
  · exact has.keys_supersede member renews apart

/-! ## Removing -/

/-- The rows of a company are those of its configuration. -/
theorem names_company (company : Uuid) :
    (fun row => row.companyId == company.text) ∘ ConfigRow.ofConfig =
      fun config => config.companyId == company := by
  funext config
  rw [Function.comp_apply, ConfigRow.ofConfig, Uuid.text_beq_text]
  rfl

/-- Removing takes away the configuration of the company, and says whether there was one. -/
theorem removeConfigOf (has : s.HasConfigs configs) (intact : s.Intact) {found : Bool}
    (removed : s.removeConfigOf company = .ok (found, s')) :
    found = (configOf configs company).isSome ∧
      s'.HasConfigs (configs.filter fun config => config.companyId != company) ∧
      s' = { s with configs := s'.configs } := by
  simp only [Store.removeConfigOf, intact.require, ok_bind, pure_eq_ok_iff, Prod.mk.injEq]
    at removed
  obtain ⟨rfl, rfl⟩ := removed
  have within := List.filter_sublist (l := configs) (p := fun config => config.companyId != company)
  refine ⟨?_, ?_, rfl⟩
  · rw [has.rows, List.any_map, names_company, configOf, List.isSome_find?]
  · constructor
    · dsimp only
      have others : (fun row : ConfigRow => row.companyId != company.text) ∘ ConfigRow.ofConfig =
          fun config => config.companyId != company := by
        funext config
        rw [Function.comp_apply, ConfigRow.ofConfig, bne, bne, Uuid.text_beq_text]
        rfl
      rw [has.rows, List.filter_map, others]
    · exact fun config member => has.legible config (List.mem_of_mem_filter member)
    · exact has.ids.sublist (within.map _)
    · exact has.owners.sublist (within.map _)
    · exact has.keys.sublist (within.map _)

end Store.HasConfigs

end Caretaker
