import Caretaker.Proofs.Operations
import Caretaker.Proofs.Store.Configs
import Caretaker.Proofs.Text.ByteOrder

/-!
# Companies, users and configurations

Whatever is created, updated and deleted, and in whatever order, identifiers, addresses
and keys stay distinct, no company has two configurations, and every user and every
configuration names a company that is there.  A call that would break this reports why and
changes nothing.

A call is judged by what it would leave behind: first whether that would have a duplicate,
then whether it would name a company that is not there.
-/

namespace Caretaker

open Job Text

/-! ## Tables in order -/

namespace Store

/-- No two rows agree in a column that is unique. -/
structure Distinct (s : Store) : Prop where
  companyIds : (s.companies.map CompanyRow.id).Nodup
  userIds : (s.users.map UserRow.id).Nodup
  userEmails : (s.users.map UserRow.email).Nodup
  configIds : (s.configs.map ConfigRow.id).Nodup
  configOwners : (s.configs.map ConfigRow.companyId).Nodup
  configKeys : (s.configs.map ConfigRow.apiKey).Nodup

/-- A company with the identifier is stored. -/
def Registers (s : Store) (company : String) : Prop :=
  ∃ row ∈ s.companies, row.id = company

/-- Users and configurations name companies that are stored. -/
structure Referring (s : Store) : Prop where
  users : ∀ row ∈ s.users, s.Registers row.companyId
  configs : ∀ row ∈ s.configs, s.Registers row.companyId

theorem hasCompany_iff {s : Store} {company : String} :
    s.hasCompany company = true ↔ s.Registers company := by
  simp [hasCompany, Registers]

/-- The row with the key, the flag and the time of change of a configuration. -/
def rewritten (config : WebhookConfig) (row : ConfigRow) : ConfigRow :=
  if row.id == config.id.text then
    { row with
      apiKey := config.apiKey
      enabled := .ofBool config.enabled
      updatedAt := config.updatedAt.storedText }
  else row

end Store

/-! ## Calls -/

/-- A write in the tables of companies, users and configurations. -/
inductive TenantCall where
  | createCompany (company : Company)
  | createUser (user : User)
  | createConfig (config : WebhookConfig)
  | updateConfig (config : WebhookConfig)
  | deleteConfigOf (company : Uuid)

/-- What a call is answered that ends well. -/
inductive TenantAnswer where
  | company (stored : Company)
  | user (stored : User)
  | config (stored : WebhookConfig)
  | deleted (existed : Bool)

namespace TenantCall

/-- The call at the desk. -/
def job : TenantCall → Job StoreError TenantAnswer
  | .createCompany company => do return .company (← Desk.createCompany company)
  | .createUser user => do return .user (← Desk.createUser user)
  | .createConfig config => do return .config (← Desk.createConfig config)
  | .updateConfig config => do return .config (← Desk.updateConfig config)
  | .deleteConfigOf company => do return .deleted (← Desk.deleteConfigOf company)

/-- What the call would leave behind if nothing stood against it. -/
def written (s : Store) : TenantCall → Store
  | .createCompany company => { s with companies := s.companies ++ [.ofCompany company] }
  | .createUser user => { s with users := s.users ++ [.ofUser user] }
  | .createConfig config => { s with configs := s.configs ++ [.ofConfig config] }
  | .updateConfig config => { s with configs := s.configs.map (Store.rewritten config) }
  | .deleteConfigOf company =>
      { s with configs := s.configs.filter fun row => row.companyId != company.text }

/-- The answer to the call. -/
def answer (s : Store) : TenantCall → TenantAnswer
  | .createCompany company => .company company
  | .createUser user => .user user
  | .createConfig config => .config config
  | .updateConfig config => .config config
  | .deleteConfigOf company => .deleted (s.configs.any fun row => row.companyId == company.text)

/-- The call is about a configuration that is not stored. -/
def Missing (s : Store) : TenantCall → Prop
  | .updateConfig config => ∀ row ∈ s.configs, row.id ≠ config.id.text
  | .createCompany _ | .createUser _ | .createConfig _ | .deleteConfigOf _ => False

/-- The conflict that the call can be refused with. -/
def clash? : TenantCall → Option Conflict
  | .createCompany company => some (.company company.id.text)
  | .createUser user => some (.email user.email)
  | .createConfig config => some (.config config.companyId.text)
  | .updateConfig _ => some .apiKey
  | .deleteConfigOf _ => none

/-- How the call ends at a desk: a call that is about nothing, or would leave a duplicate or
a dangling reference behind, is refused and changes nothing. -/
structure Ends (call : TenantCall) (desk : Desk) : Prop where
  missing : call.Missing desk.store → call.job.run desk = (.failed .notFound, desk)
  duplicate : ¬call.Missing desk.store → ¬(call.written desk.store).Distinct →
    ∃ clash, call.clash? = some clash ∧ call.job.run desk = (.failed (.conflict clash), desk)
  dangling : ¬call.Missing desk.store → (call.written desk.store).Distinct →
    ¬(call.written desk.store).Referring →
      call.job.run desk = (.failed (.query .danglingReference), desk)
  done : ¬call.Missing desk.store → (call.written desk.store).Distinct →
    (call.written desk.store).Referring →
      call.job.run desk = (.done (call.answer desk.store), { desk with store := call.written desk.store })

end TenantCall

/-! ## What each call would leave behind -/

namespace Store

variable {s : Store}

theorem Distinct.addCompany_iff (distinct : s.Distinct) {company : Company} :
    ((TenantCall.createCompany company).written s).Distinct ↔
      ∀ row ∈ s.companies, row.id ≠ company.id.text := by
  constructor
  · intro after
    exact (nodup_map_concat_iff.mp after.companyIds).2
  · intro fresh
    exact { distinct with companyIds := nodup_map_concat distinct.companyIds fresh }

theorem Distinct.addUser_iff (distinct : s.Distinct) {user : User} :
    ((TenantCall.createUser user).written s).Distinct ↔
      ∀ row ∈ s.users, row.id ≠ user.id.text ∧ row.email ≠ user.email := by
  constructor
  · intro after row member
    exact ⟨(nodup_map_concat_iff.mp after.userIds).2 row member,
      (nodup_map_concat_iff.mp after.userEmails).2 row member⟩
  · intro fresh
    exact { distinct with
      userIds := nodup_map_concat distinct.userIds fun row member => (fresh row member).1
      userEmails := nodup_map_concat distinct.userEmails fun row member => (fresh row member).2 }

theorem Distinct.addConfig_iff (distinct : s.Distinct) {config : WebhookConfig} :
    ((TenantCall.createConfig config).written s).Distinct ↔
      ∀ row ∈ s.configs, row.id ≠ config.id.text ∧ row.companyId ≠ config.companyId.text ∧
        row.apiKey ≠ config.apiKey := by
  constructor
  · intro after row member
    exact ⟨(nodup_map_concat_iff.mp after.configIds).2 row member,
      (nodup_map_concat_iff.mp after.configOwners).2 row member,
      (nodup_map_concat_iff.mp after.configKeys).2 row member⟩
  · intro fresh
    exact { distinct with
      configIds := nodup_map_concat distinct.configIds fun row member => (fresh row member).1
      configOwners := nodup_map_concat distinct.configOwners
        fun row member => (fresh row member).2.1
      configKeys := nodup_map_concat distinct.configKeys fun row member => (fresh row member).2.2 }

theorem rewritten_of_ne {config : WebhookConfig} {row : ConfigRow} (other : row.id ≠ config.id.text) :
    rewritten config row = row := by
  rw [rewritten, beq_false_of_ne other]
  rfl

theorem apiKey_rewritten {config : WebhookConfig} {row : ConfigRow} (named : row.id = config.id.text) :
    (rewritten config row).apiKey = config.apiKey := by
  rw [rewritten, named, beq_self_eq_true]
  rfl

theorem id_rewritten (config : WebhookConfig) (row : ConfigRow) :
    (rewritten config row).id = row.id := by
  unfold rewritten
  split <;> rfl

theorem companyId_rewritten (config : WebhookConfig) (row : ConfigRow) :
    (rewritten config row).companyId = row.companyId := by
  unfold rewritten
  split <;> rfl

/-- What rewriting leaves alone is the same for all rows. -/
theorem map_rewritten {α : Type} {column : ConfigRow → α} (config : WebhookConfig)
    (same : ∀ row, column (rewritten config row) = column row) :
    (s.configs.map (rewritten config)).map column = s.configs.map column := by
  rw [List.map_map]
  exact List.map_congr_left fun row _ => same row

theorem Distinct.updateConfig_iff (distinct : s.Distinct) {config : WebhookConfig}
    (known : ∃ row ∈ s.configs, row.id = config.id.text) :
    ((TenantCall.updateConfig config).written s).Distinct ↔
      ∀ row ∈ s.configs, row.id ≠ config.id.text → row.apiKey ≠ config.apiKey := by
  obtain ⟨old, memberOld, named⟩ := known
  constructor
  · intro after row member other sameKey
    have level : (rewritten config row).apiKey = (rewritten config old).apiKey := by
      rw [rewritten_of_ne other, sameKey, apiKey_rewritten named]
    have same := List.inj_on_of_nodup_map after.configKeys (List.mem_map_of_mem member)
      (List.mem_map_of_mem memberOld) level
    have sameId := congrArg ConfigRow.id same
    rw [id_rewritten, id_rewritten, named] at sameId
    exact other sameId
  · intro free
    refine { distinct with configIds := ?_, configOwners := ?_, configKeys := ?_ }
    · rw [TenantCall.written, map_rewritten config (id_rewritten config)]
      exact distinct.configIds
    · rw [TenantCall.written, map_rewritten config (companyId_rewritten config)]
      exact distinct.configOwners
    · apply nodup_map_of_change (List.Nodup.of_map _ distinct.configIds)
      intro a memberA b memberB level
      by_cases namedA : a.id = config.id.text
      · by_cases namedB : b.id = config.id.text
        · exact List.inj_on_of_nodup_map distinct.configIds memberA memberB
            (namedA.trans namedB.symm)
        · rw [apiKey_rewritten namedA, rewritten_of_ne namedB] at level
          exact absurd level.symm (free b memberB namedB)
      · rw [rewritten_of_ne namedA] at level
        by_cases namedB : b.id = config.id.text
        · rw [apiKey_rewritten namedB] at level
          exact absurd level (free a memberA namedA)
        · rw [rewritten_of_ne namedB] at level
          exact List.inj_on_of_nodup_map distinct.configKeys memberA memberB level

theorem Distinct.deleteConfigOf (distinct : s.Distinct) (company : Uuid) :
    ((TenantCall.deleteConfigOf company).written s).Distinct :=
  { distinct with
    configIds := distinct.configIds.sublist (List.filter_sublist.map _)
    configOwners := distinct.configOwners.sublist (List.filter_sublist.map _)
    configKeys := distinct.configKeys.sublist (List.filter_sublist.map _) }

theorem Referring.addCompany (referring : s.Referring) (company : Company) :
    ((TenantCall.createCompany company).written s).Referring := by
  have stillKnown {text : String} (known : s.Registers text) :
      ((TenantCall.createCompany company).written s).Registers text := by
    obtain ⟨row, member, named⟩ := known
    exact ⟨row, List.mem_append_left _ member, named⟩
  constructor
  · exact fun row member => stillKnown (referring.users row member)
  · exact fun row member => stillKnown (referring.configs row member)

theorem Referring.addUser_iff (referring : s.Referring) {user : User} :
    ((TenantCall.createUser user).written s).Referring ↔ s.Registers user.companyId.text := by
  constructor
  · exact fun after => after.users (.ofUser user) (List.mem_append_right _ List.mem_cons_self)
  · intro known
    refine { referring with users := ?_ }
    intro row member
    rcases List.mem_append.mp member with old | new
    · exact referring.users row old
    · rw [List.mem_singleton.mp new]
      exact known

theorem Referring.addConfig_iff (referring : s.Referring) {config : WebhookConfig} :
    ((TenantCall.createConfig config).written s).Referring ↔ s.Registers config.companyId.text := by
  constructor
  · exact fun after => after.configs (.ofConfig config) (List.mem_append_right _ List.mem_cons_self)
  · intro known
    refine { referring with configs := ?_ }
    intro row member
    rcases List.mem_append.mp member with old | new
    · exact referring.configs row old
    · rw [List.mem_singleton.mp new]
      exact known

theorem Referring.updateConfig (referring : s.Referring) (config : WebhookConfig) :
    ((TenantCall.updateConfig config).written s).Referring := by
  refine { referring with configs := ?_ }
  intro row member
  obtain ⟨old, memberOld, rfl⟩ := List.mem_map.mp member
  rw [companyId_rewritten]
  exact referring.configs old memberOld

theorem Referring.deleteConfigOf (referring : s.Referring) (company : Uuid) :
    ((TenantCall.deleteConfigOf company).written s).Referring :=
  { referring with configs := fun row member => referring.configs row (List.mem_of_mem_filter member) }

end Store

/-! ## How each call ends -/

namespace TenantCall

/-- The store after the call, or why there is none. -/
def stored (s : Store) : TenantCall → Except StoreError Store
  | .createCompany company => s.addCompany company
  | .createUser user => s.addUser user
  | .createConfig config => s.addConfig config
  | .updateConfig config => s.updateConfig config
  | .deleteConfigOf company => (s.removeConfigOf company).map Prod.snd

/-- A value that is stored is given back. -/
theorem run_through_write {α : Type} {channel : Channel} {f : Store → Except StoreError Store}
    {desk : Desk} (working : desk.outages = []) (value : α) :
    (through channel (do write f; return value)).run desk = match f desk.store with
      | .ok store => (.done value, { desk with store })
      | .error error => (.failed error, desk) := by
  rw [run_through (by simp [working]), run_bind, run_write]
  cases f desk.store <;> rfl

variable {desk : Desk} (call : TenantCall)

theorem run_job (working : desk.outages = []) (intact : desk.store.Intact) :
    call.job.run desk = match call.stored desk.store with
      | .ok store => (.done (call.answer desk.store), { desk with store })
      | .error error => (.failed error, desk) := by
  cases call with
  | createCompany company =>
      rw [job, run_bind, Desk.createCompany, run_through_write working, stored]
      cases desk.store.addCompany company <;> rfl
  | createUser user =>
      rw [job, run_bind, Desk.createUser, run_through_write working, stored]
      cases desk.store.addUser user <;> rfl
  | createConfig config =>
      rw [job, run_bind, Desk.createConfig, run_through_write working, stored]
      cases desk.store.addConfig config <;> rfl
  | updateConfig config =>
      rw [job, run_bind, Desk.updateConfig, run_through_write working, stored]
      cases desk.store.updateConfig config <;> rfl
  | deleteConfigOf company =>
      rw [job, run_bind, Desk.deleteConfigOf, run_through (by simp [working]), run_change, stored,
        Store.removeConfigOf, intact.require]
      rfl

end TenantCall

namespace Store

variable {s : Store}

theorem addCompany_eq (intact : s.Intact) (company : Company) :
    s.addCompany company = if s.companies.any fun row => row.id == company.id.text then
      .error (.conflict (.company company.id.text))
    else .ok ((TenantCall.createCompany company).written s) := by
  rw [addCompany, intact.require, ok_bind]
  split <;> rfl

theorem addUser_eq (intact : s.Intact) (user : User) :
    s.addUser user =
      if s.users.any fun row => row.id == user.id.text || row.email == user.email then
        .error (.conflict (.email user.email))
      else if s.hasCompany user.companyId.text then .ok ((TenantCall.createUser user).written s)
      else .error (.query .danglingReference) := by
  rw [addUser, intact.require, ok_bind]
  cases s.users.any fun row => row.id == user.id.text || row.email == user.email with
  | true => rfl
  | false => cases s.hasCompany user.companyId.text <;> rfl

theorem addConfig_eq (intact : s.Intact) (config : WebhookConfig) :
    s.addConfig config =
      if s.configs.any fun row => row.id == config.id.text ||
          row.companyId == config.companyId.text || row.apiKey == config.apiKey then
        .error (.conflict (.config config.companyId.text))
      else if s.hasCompany config.companyId.text then
        .ok ((TenantCall.createConfig config).written s)
      else .error (.query .danglingReference) := by
  rw [addConfig, intact.require, ok_bind]
  dsimp only
  cases s.configs.any fun row => row.id == config.id.text ||
      row.companyId == config.companyId.text || row.apiKey == config.apiKey with
  | true => rfl
  | false => cases s.hasCompany config.companyId.text <;> rfl

theorem updateConfig_eq (intact : s.Intact) (config : WebhookConfig) :
    s.updateConfig config =
      if s.configs.any fun row => row.id == config.id.text then
        if s.configs.any fun row => row.id != config.id.text && row.apiKey == config.apiKey then
          .error (.conflict .apiKey)
        else .ok ((TenantCall.updateConfig config).written s)
      else .error .notFound := by
  rw [updateConfig, intact.require, ok_bind]
  cases s.configs.any fun row => row.id == config.id.text with
  | false => rfl
  | true =>
      cases s.configs.any fun row => row.id != config.id.text && row.apiKey == config.apiKey <;> rfl

theorem removeConfigOf_eq (intact : s.Intact) (company : Uuid) :
    (TenantCall.deleteConfigOf company).stored s =
      .ok ((TenantCall.deleteConfigOf company).written s) := by
  rw [TenantCall.stored, removeConfigOf, intact.require]
  rfl

end Store

namespace TenantCall

/-- The verdict on a call in terms of the store alone. -/
structure Judged (call : TenantCall) (s : Store) : Prop where
  missing : call.Missing s → call.stored s = .error .notFound
  duplicate : ¬call.Missing s → ¬(call.written s).Distinct →
    ∃ clash, call.clash? = some clash ∧ call.stored s = .error (.conflict clash)
  dangling : ¬call.Missing s → (call.written s).Distinct → ¬(call.written s).Referring →
    call.stored s = .error (.query .danglingReference)
  done : ¬call.Missing s → (call.written s).Distinct → (call.written s).Referring →
    call.stored s = .ok (call.written s)

variable {s : Store}

/-- A creation looks for a duplicate first and for the company that is named second. -/
theorem judged_of_creation {call : TenantCall} {clash : Conflict} {taken known : Bool}
    (present : ¬call.Missing s) (reported : call.clash? = some clash)
    (isTaken : taken = true ↔ ¬(call.written s).Distinct)
    (isKnown : known = true ↔ (call.written s).Referring)
    (verdict : call.stored s = if taken then .error (.conflict clash)
      else if known then .ok (call.written s) else .error (.query .danglingReference)) :
    call.Judged s := by
  constructor
  · exact fun absent => absurd absent present
  · intro _ clashes
    rw [if_pos (isTaken.mpr clashes)] at verdict
    exact ⟨clash, reported, verdict⟩
  · intro _ free dangles
    rw [if_neg fun found => isTaken.mp found free, if_neg fun found => dangles (isKnown.mp found)]
      at verdict
    exact verdict
  · intro _ free refers
    rw [if_neg fun found => isTaken.mp found free, if_pos (isKnown.mpr refers)] at verdict
    exact verdict

theorem createCompany_judged (intact : s.Intact) (distinct : s.Distinct) (referring : s.Referring)
    (company : Company) : (createCompany company).Judged s := by
  have taken : (s.companies.any fun row => row.id == company.id.text) = true ↔
      ¬((createCompany company).written s).Distinct := by
    rw [distinct.addCompany_iff]
    simp
  -- A company names no other, so that nothing is looked up for it.
  have known : true = true ↔ ((createCompany company).written s).Referring :=
    iff_of_true rfl (referring.addCompany company)
  apply judged_of_creation id rfl taken known
  exact Store.addCompany_eq intact company

theorem createUser_judged (intact : s.Intact) (distinct : s.Distinct) (referring : s.Referring)
    (user : User) : (createUser user).Judged s := by
  have taken : (s.users.any fun row => row.id == user.id.text || row.email == user.email) = true ↔
      ¬((createUser user).written s).Distinct := by
    rw [distinct.addUser_iff]
    simp [or_iff_not_imp_left]
  have known : s.hasCompany user.companyId.text = true ↔ ((createUser user).written s).Referring :=
    Store.hasCompany_iff.trans referring.addUser_iff.symm
  exact judged_of_creation id rfl taken known (Store.addUser_eq intact user)

theorem createConfig_judged (intact : s.Intact) (distinct : s.Distinct) (referring : s.Referring)
    (config : WebhookConfig) : (createConfig config).Judged s := by
  have taken : (s.configs.any fun row => row.id == config.id.text ||
      row.companyId == config.companyId.text || row.apiKey == config.apiKey) = true ↔
        ¬((createConfig config).written s).Distinct := by
    rw [distinct.addConfig_iff]
    simp [or_iff_not_imp_left]
  have known : s.hasCompany config.companyId.text = true ↔
      ((createConfig config).written s).Referring :=
    Store.hasCompany_iff.trans referring.addConfig_iff.symm
  exact judged_of_creation id rfl taken known (Store.addConfig_eq intact config)

theorem updateConfig_judged (intact : s.Intact) (distinct : s.Distinct) (referring : s.Referring)
    (config : WebhookConfig) : (updateConfig config).Judged s := by
  have known : (s.configs.any fun row => row.id == config.id.text) = true ↔
      ¬(updateConfig config).Missing s := by
    simp [Missing]
  have taken (present : ¬(updateConfig config).Missing s) :
      (s.configs.any fun row => row.id != config.id.text && row.apiKey == config.apiKey) = true ↔
        ¬((updateConfig config).written s).Distinct := by
    rw [distinct.updateConfig_iff (by simpa [Missing] using present)]
    simp
  have verdict := Store.updateConfig_eq intact config
  constructor
  · intro absent
    rw [if_neg fun found => known.mp found absent] at verdict
    exact verdict
  · intro present clashes
    rw [if_pos (known.mpr present), if_pos ((taken present).mpr clashes)] at verdict
    exact ⟨_, rfl, verdict⟩
  · exact fun _ _ dangles => absurd (referring.updateConfig config) dangles
  · intro present free _
    rw [if_pos (known.mpr present), if_neg fun found => (taken present).mp found free] at verdict
    exact verdict

theorem deleteConfigOf_judged (intact : s.Intact) (distinct : s.Distinct) (referring : s.Referring)
    (company : Uuid) : (deleteConfigOf company).Judged s where
  missing := False.elim
  duplicate _ clashes := absurd (distinct.deleteConfigOf company) clashes
  dangling _ _ dangles := absurd (referring.deleteConfigOf company) dangles
  done _ _ _ := Store.removeConfigOf_eq intact company

theorem judged (intact : s.Intact) (distinct : s.Distinct) (referring : s.Referring)
    (call : TenantCall) : call.Judged s := by
  cases call with
  | createCompany company => exact createCompany_judged intact distinct referring company
  | createUser user => exact createUser_judged intact distinct referring user
  | createConfig config => exact createConfig_judged intact distinct referring config
  | updateConfig config => exact updateConfig_judged intact distinct referring config
  | deleteConfigOf company => exact deleteConfigOf_judged intact distinct referring company

/-- At a desk the verdict on a call is what it ends with. -/
theorem Judged.ends {call : TenantCall} {desk : Desk} (judged : call.Judged desk.store)
    (working : desk.outages = []) (intact : desk.store.Intact) : call.Ends desk := by
  have run := run_job call working intact
  constructor
  · intro absent
    rw [run, judged.missing absent]
  · intro present clashes
    obtain ⟨clash, reported, verdict⟩ := judged.duplicate present clashes
    rw [run, verdict]
    exact ⟨clash, reported, rfl⟩
  · intro present free dangles
    rw [run, judged.dangling present free dangles]
  · intro present free refers
    rw [run, judged.done present free refers]

end TenantCall

/-! ## Many calls -/

namespace Desk

/-- The desk after some calls, however each of them ended. -/
def afterCalls (desk : Desk) (calls : List TenantCall) : Desk :=
  calls.foldl (fun desk call => (call.job.run desk).2) desk

/-- The tables of the desk are in order. -/
structure InOrder (desk : Desk) : Prop where
  working : desk.outages = []
  intact : desk.store.Intact
  distinct : desk.store.Distinct
  referring : desk.store.Referring
  members : ∃ users : List User, desk.store.users = users.map .ofUser

variable {desk : Desk}

/-- A call that does not end well leaves the desk as it was. -/
theorem InOrder.unchanged_or_written (inOrder : desk.InOrder) (call : TenantCall) :
    (call.job.run desk).2 = desk ∨
      (call.written desk.store).Distinct ∧ (call.written desk.store).Referring ∧
        (call.job.run desk).2 = { desk with store := call.written desk.store } := by
  obtain ⟨missing, duplicate, dangling, done⟩ :=
    (call.judged inOrder.intact inOrder.distinct inOrder.referring).ends inOrder.working inOrder.intact
  by_cases absent : call.Missing desk.store
  · rw [missing absent]
    exact .inl rfl
  · by_cases free : (call.written desk.store).Distinct
    · by_cases refers : (call.written desk.store).Referring
      · rw [done absent free refers]
        exact .inr ⟨free, refers, rfl⟩
      · rw [dangling absent free refers]
        exact .inl rfl
    · obtain ⟨clash, -, refused⟩ := duplicate absent free
      rw [refused]
      exact .inl rfl

/-- A call adds at most one user, and its row is that of a user. -/
theorem members_written {s : Store} (members : ∃ users : List User, s.users = users.map .ofUser)
    (call : TenantCall) : ∃ users : List User, (call.written s).users = users.map .ofUser := by
  obtain ⟨users, rows⟩ := members
  cases call with
  | createUser user =>
      refine ⟨users ++ [user], ?_⟩
      rw [TenantCall.written, rows, List.map_append]
      rfl
  | createCompany company => exact ⟨users, rows⟩
  | createConfig config => exact ⟨users, rows⟩
  | updateConfig config => exact ⟨users, rows⟩
  | deleteConfigOf company => exact ⟨users, rows⟩

theorem intact_written {s : Store} (intact : s.Intact) (call : TenantCall) :
    (call.written s).Intact := by
  cases call <;> exact intact

/-- Every call keeps the tables in order. -/
theorem InOrder.after (inOrder : desk.InOrder) (call : TenantCall) : (call.job.run desk).2.InOrder := by
  rcases inOrder.unchanged_or_written call with same | ⟨free, refers, done⟩
  · rw [same]
    exact inOrder
  · rw [done]
    exact ⟨inOrder.working, intact_written inOrder.intact call, free, refers,
      members_written inOrder.members call⟩

theorem InOrder.afterCalls (inOrder : desk.InOrder) (calls : List TenantCall) :
    (desk.afterCalls calls).InOrder := by
  induction calls generalizing desk with
  | nil => exact inOrder
  | cons call rest ih => exact ih (inOrder.after call)

/-! ## Administrators -/

/-- The administrators of a company among some users, by address. -/
def adminsOf (company : Uuid) (users : List User) : List User :=
  (users.filter fun user => user.companyId = company ∧ user.role = .admin).mergeSort
    fun a b => decide (a.email ≤ b.email)

theorem InOrder.findAdmins_eq (inOrder : desk.InOrder) {users : List User}
    (rows : desk.store.users = users.map .ofUser) (company : Uuid) :
    desk.store.findAdmins company = .ok (adminsOf company users) := by
  have picked : (users.map UserRow.ofUser).filter (fun row =>
      row.companyId == company.text && row.role == Json.word Role.admin) =
        (users.filter fun user => user.companyId = company ∧ user.role = .admin).map .ofUser := by
    rw [List.filter_map]
    apply congrArg (List.map UserRow.ofUser)
    apply List.filter_congr
    intro user _
    simp [UserRow.ofUser]
  have sorted : ((users.filter fun user => user.companyId = company ∧ user.role = .admin).map
      UserRow.ofUser).mergeSort (fun a b => decide (a.email ≤ b.email)) =
        (adminsOf company users).map .ofUser := by
    rw [adminsOf, List.map_mergeSort]
    exact fun _ _ _ _ => rfl
  have reads : ∀ user found, (UserRow.ofUser user).user = .ok found ↔ True ∧ user = found := by
    simp
  simp only [Store.findAdmins, inOrder.intact.require, ok_bind]
  rw [rows, picked, sorted]
  apply (Store.readAll_map_eq_ok_iff reads).mpr
  exact ⟨fun _ _ => trivial, List.map_id _⟩

/-- The list has exactly the administrators of the company, in the order of the bytes of
their addresses. -/
structure ListsAdmins (s : Store) (company : Uuid) (found : List User) : Prop where
  mem_iff : ∀ user, user ∈ found ↔
    UserRow.ofUser user ∈ s.users ∧ user.companyId = company ∧ user.role = .admin
  sorted : found.Pairwise fun a b => bytesOf a.email < bytesOf b.email

theorem InOrder.listsAdmins (inOrder : desk.InOrder) {users : List User}
    (rows : desk.store.users = users.map .ofUser) (company : Uuid) :
    ListsAdmins desk.store company (adminsOf company users) where
  mem_iff user := by
    rw [adminsOf, List.mem_mergeSort, List.mem_filter, decide_eq_true_eq, rows,
      List.mem_map_of_injective UserRow.ofUser_injective]
  sorted := by
    have ordered : (adminsOf company users).Pairwise fun a b => decide (a.email ≤ b.email) := by
      apply List.pairwise_mergeSort
      · intro a b c first second
        exact decide_eq_true (String.le_trans (of_decide_eq_true first) (of_decide_eq_true second))
      · intro a b
        simpa using String.le_total a.email b.email
    have emails : (users.map User.email).Nodup := by
      have distinct := inOrder.distinct.userEmails
      rw [rows, List.map_map] at distinct
      exact distinct
    have apart : (adminsOf company users).Pairwise fun a b => a.email ≠ b.email := by
      apply List.pairwise_map.mp
      apply ((List.mergeSort_perm _ _).map User.email).nodup_iff.mpr
      exact emails.sublist (List.filter_sublist.map _)
    apply (ordered.and apart).imp
    rintro a b ⟨atMost, differ⟩
    apply bytesOf_lt_of_lt
    rw [← String.not_le]
    intro atLeast
    exact differ (String.le_antisymm (of_decide_eq_true atMost) atLeast)

/-! ## Updates -/

/-- Of the configurations at most the one with the identifier is different, and only in key,
flag and time of change. -/
def Rewrites (id : Uuid) (before after : List ConfigRow) : Prop :=
  List.Forall₂ (fun old new => new = old ∨ old.id = id.text ∧ ∃ apiKey enabled updatedAt,
    new = { old with apiKey, enabled, updatedAt }) before after

theorem rewrites_refl (id : Uuid) (rows : List ConfigRow) : Rewrites id rows rows :=
  List.forall₂_same.mpr fun _ _ => .inl rfl

theorem rewrites_rewritten (config : WebhookConfig) (rows : List ConfigRow) :
    Rewrites config.id rows (rows.map (Store.rewritten config)) := by
  rw [Rewrites, List.forall₂_map_right_iff]
  apply List.forall₂_same.mpr
  intro row _
  by_cases named : row.id = config.id.text
  · right
    refine ⟨named, config.apiKey, .ofBool config.enabled, config.updatedAt.storedText, ?_⟩
    rw [Store.rewritten, if_pos (beq_iff_eq.mpr named)]
  · exact .inl (Store.rewritten_of_ne named)

/-- Whether it ends well or not, an update is confined to the one row. -/
theorem InOrder.updateConfig_rewrites (inOrder : desk.InOrder) (config : WebhookConfig) :
    ∃ configs, ((updateConfig config).run desk).2 =
        { desk with store := { desk.store with configs } } ∧
      Rewrites config.id desk.store.configs configs := by
  have left : ((updateConfig config).run desk).2 = ((TenantCall.updateConfig config).job.run desk).2 :=
    (run_bind_pure (updateConfig config) TenantAnswer.config desk).symm
  rw [left]
  rcases inOrder.unchanged_or_written (.updateConfig config) with same | ⟨-, -, done⟩
  · rw [same]
    exact ⟨_, rfl, rewrites_refl config.id _⟩
  · rw [done]
    exact ⟨_, rfl, rewrites_rewritten config _⟩

/-! ## Integrity -/

/-- The tables are in order, every call ends as it should, updates are confined to one row,
and administrators are found. -/
structure KeepsTenants (desk : Desk) : Prop where
  distinct : desk.store.Distinct
  referring : desk.store.Referring
  ends (call : TenantCall) : call.Ends desk
  updates (config : WebhookConfig) : ∃ configs,
    ((updateConfig config).run desk).2 = { desk with store := { desk.store with configs } } ∧
      Rewrites config.id desk.store.configs configs
  admins (company : Uuid) : ∃ found, (findAdmins company).run desk = (.done found, desk) ∧
    ListsAdmins desk.store company found

theorem InOrder.keepsTenants (inOrder : desk.InOrder) : desk.KeepsTenants where
  distinct := inOrder.distinct
  referring := inOrder.referring
  ends call := (call.judged inOrder.intact inOrder.distinct inOrder.referring).ends inOrder.working
    inOrder.intact
  updates := inOrder.updateConfig_rewrites
  admins company := by
    obtain ⟨users, rows⟩ := inOrder.members
    refine ⟨adminsOf company users, ?_, inOrder.listsAdmins rows company⟩
    rw [findAdmins, run_through (by simp [inOrder.working]), run_read,
      inOrder.findAdmins_eq rows company]

/-- Whatever calls are made at a desk that had no companies, users and configurations, its
tables are in order afterwards, and every further call ends accordingly. -/
theorem tenants_in_order {desk : Desk} (working : desk.outages = []) (intact : desk.store.Intact)
    (noCompanies : desk.store.companies = []) (noUsers : desk.store.users = [])
    (noConfigs : desk.store.configs = []) (calls : List TenantCall) :
    (desk.afterCalls calls).KeepsTenants := by
  have start : desk.InOrder := {
    working, intact
    distinct := by constructor <;> simp [noCompanies, noUsers, noConfigs]
    referring := by constructor <;> simp [noUsers, noConfigs]
    members := ⟨[], noUsers⟩ }
  exact (start.afterCalls calls).keepsTenants

/-- A company. -/
def acme : Company where
  id := Uuid.ofNat 7
  name := "Acme"
  createdAt := newYear 2026 isDate_newYear2026

/-- A configuration of the company. -/
def acmeConfig : WebhookConfig where
  id := Uuid.ofNat 70
  companyId := acme.id
  apiKey := "first key"
  enabled := true
  createdAt := acme.createdAt
  updatedAt := acme.createdAt

/-- The company, its configuration, and an administrator who is registered twice. -/
def acmeCalls : List TenantCall :=
  [.createCompany acme, .createConfig acmeConfig,
    .createUser ⟨Uuid.ofNat 71, acme.id, "zoe@acme.test", .admin⟩,
    .createUser ⟨Uuid.ofNat 72, acme.id, "zoe@acme.test", .admin⟩]

/-- The second registration is refused, and so is a configuration for a company that is not
there. -/
theorem tenants_in_order_acme :
    ((blank acme.createdAt).afterCalls acmeCalls).KeepsTenants ∧
      ((blank acme.createdAt).afterCalls acmeCalls).store.users.length = 1 := by
  have intact : (blank acme.createdAt).store.Intact := rfl
  exact ⟨tenants_in_order rfl intact rfl rfl rfl acmeCalls, by decide +kernel⟩

end Desk

end Caretaker
