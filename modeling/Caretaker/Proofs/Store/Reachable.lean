import Caretaker.Proofs.Store.Spread
import Caretaker.Store.Maintenance
import Caretaker.Store.Tenants

/-!
# Reachable stores

A step is one write that ends well, whichever table it is for, and a store is
reachable when steps lead to it from the store without rows.  The instants that steps
may write are a parameter, so that one invariant serves for all reachable stores and
for those that only hold instants of some kind.

Every row of a reachable store was written from a value.  For workflows this means
that the store holds entries; for the other tables each row by itself is the row of
some value, also after it was merged with the row of a later save.
-/

namespace Caretaker.Store

open Calendar

/-! ## What a write leaves alone -/

section

variable {s s' : Store}

theorem eq_of_addCompany {company : Company} (done : s.addCompany company = .ok s') :
    s' = { s with companies := s'.companies } := by
  simp only [addCompany, bind_eq_ok_iff, refuse_eq_ok_iff, pure_eq_ok_iff] at done
  obtain ⟨_, -, -, rfl⟩ := done
  rfl

theorem eq_of_addUser {user : User} (done : s.addUser user = .ok s') :
    s' = { s with users := s'.users } := by
  simp only [addUser, bind_eq_ok_iff, refuse_eq_ok_iff, pure_eq_ok_iff] at done
  obtain ⟨_, -, -, -, rfl⟩ := done
  rfl

theorem eq_of_addConfig {config : WebhookConfig} (done : s.addConfig config = .ok s') :
    s' = { s with configs := s'.configs } := by
  simp only [addConfig, bind_eq_ok_iff, refuse_eq_ok_iff, pure_eq_ok_iff] at done
  obtain ⟨_, -, -, -, rfl⟩ := done
  rfl

theorem eq_of_updateConfig {config : WebhookConfig} (done : s.updateConfig config = .ok s') :
    s' = { s with configs := s'.configs } := by
  simp only [updateConfig, bind_eq_ok_iff, refuse_eq_ok_iff, pure_eq_ok_iff] at done
  obtain ⟨_, -, -, -, rfl⟩ := done
  rfl

theorem eq_of_removeConfigOf {company : Uuid} {found : Bool}
    (done : s.removeConfigOf company = .ok (found, s')) :
    s' = { s with configs := s'.configs } := by
  obtain ⟨_, -, removed⟩ := bind_eq_ok_iff.mp done
  cases removed
  rfl

theorem eq_of_setEnabled {ids : List Uuid} {enabled : Bool} {now : Instant}
    (done : s.setEnabled ids enabled now = .ok s') : s' = { s with workflows := s'.workflows } := by
  unfold setEnabled at done
  split at done
  · rw [← pure_eq_ok_iff.mp done]
  · obtain ⟨_, -, written⟩ := bind_eq_ok_iff.mp done
    rw [← pure_eq_ok_iff.mp written]

theorem eq_of_removeWorkflow {id : Uuid} {found : Bool}
    (done : s.removeWorkflow id = .ok (found, s')) :
    s' = { s with
      workflows := s'.workflows
      conditions := s'.conditions
      actions := s'.actions } := by
  obtain ⟨_, -, rest⟩ := bind_eq_ok_iff.mp done
  split at rest <;> cases rest <;> rfl

theorem eq_of_advanceCounter {company : Uuid} {next : Cell}
    (done : s.advanceCounter company = .ok (next, s')) :
    s' = { s with counters := s'.counters } := by
  obtain ⟨_, -, advanced⟩ := bind_eq_ok_iff.mp done
  cases advanced
  rfl

end

/-! ## Steps -/

/-- One write that ends well.  The instants that are written are `allowed`, as far as
they are ever read again. -/
inductive Step (allowed : Instant → Prop) (s : Store) : Store → Prop where
  | addCompany {s' : Store} {company : Company} (done : s.addCompany company = .ok s') :
      Step allowed s s'
  | addUser {s' : Store} {user : User} (done : s.addUser user = .ok s') : Step allowed s s'
  | addConfig {s' : Store} {config : WebhookConfig} (done : s.addConfig config = .ok s')
      (dated : ∀ t ∈ config.instants, allowed t) : Step allowed s s'
  | updateConfig {s' : Store} {config : WebhookConfig} (done : s.updateConfig config = .ok s')
      (dated : allowed config.updatedAt) : Step allowed s s'
  | removeConfigOf {s' : Store} {company : Uuid} {found : Bool}
      (done : s.removeConfigOf company = .ok (found, s')) : Step allowed s s'
  | addWorkflow {s' : Store} {fresh : Nat → Uuid} {w : Workflow}
      (done : s.addWorkflow fresh w = .ok s') (dated : ∀ t ∈ w.instants, allowed t) :
      Step allowed s s'
  | setEnabled {s' : Store} {ids : List Uuid} {enabled : Bool} {now : Instant}
      (done : s.setEnabled ids enabled now = .ok s') (dated : allowed now) : Step allowed s s'
  | removeWorkflow {s' : Store} {id : Uuid} {found : Bool}
      (done : s.removeWorkflow id = .ok (found, s')) : Step allowed s s'
  | saveAsset {s' : Store} {asset : Asset} (done : s.saveAsset asset = .ok s')
      (dated : ∀ t ∈ asset.instants, allowed t) : Step allowed s s'
  | saveWorkOrder {s' : Store} {order : WorkOrder} (done : s.saveWorkOrder order = .ok s')
      (dated : ∀ t ∈ order.toTicket.instants, allowed t) : Step allowed s s'
  | saveRequest {s' : Store} {request : Request} (done : s.saveRequest request = .ok s')
      (dated : ∀ t ∈ request.toTicket.instants, allowed t) : Step allowed s s'
  | savePurchaseOrder {s' : Store} {order : PurchaseOrder}
      (done : s.savePurchaseOrder order = .ok s') : Step allowed s s'
  | advanceCounter {s' : Store} {company : Uuid} {next : Cell}
      (done : s.advanceCounter company = .ok (next, s')) : Step allowed s s'

/-- Writes of allowed instants lead from the store without rows to this one. -/
inductive Reachable (allowed : Instant → Prop) : Store → Prop where
  | empty : Reachable allowed empty
  | step {s s' : Store} (reached : Reachable allowed s) (last : Step allowed s s') :
      Reachable allowed s'

/-! ## Rows of values -/

/-- Every row is the row of a value that passes a test. -/
def Written {ρ α : Type} (write : α → ρ) (passes : α → Prop) (rows : List ρ) : Prop :=
  ∀ row ∈ rows, ∃ value, passes value ∧ write value = row

section

variable {ρ α : Type} {write : α → ρ} {passes : α → Prop} {rows : List ρ}

theorem written_nil : Written write passes [] := by
  simp [Written]

theorem Written.append (written : Written write passes rows) {value : α} (good : passes value) :
    Written write passes (rows ++ [write value]) := by
  intro row member
  rcases List.mem_append.mp member with old | new
  · exact written row old
  · exact ⟨value, good, (List.mem_singleton.mp new).symm⟩

theorem Written.filter (written : Written write passes rows) (picked : ρ → Bool) :
    Written write passes (rows.filter picked) :=
  fun row member => written row (List.mem_of_mem_filter member)

theorem Written.map (written : Written write passes rows) {change : ρ → ρ}
    (changes : ∀ value, passes value → ∃ value', passes value' ∧ write value' = change (write value)) :
    Written write passes (rows.map change) := by
  intro row member
  obtain ⟨old, memberOld, rfl⟩ := List.mem_map.mp member
  obtain ⟨value, good, rfl⟩ := written old memberOld
  exact changes value good

theorem Written.upsert (written : Written write passes rows) {same : ρ → Bool}
    {merge : ρ → ρ → ρ} {value : α} (good : passes value)
    (merges : ∀ old, passes old → ∃ value', passes value' ∧
      write value' = merge (write old) (write value)) :
    Written write passes (upsert same merge (write value) rows) := by
  unfold Store.upsert
  split
  · apply written.map
    intro old goodOld
    split
    · exact merges old goodOld
    · exact ⟨old, goodOld, rfl⟩
  · exact written.append good

/-- Saving a row under its key keeps the keys of a table distinct. -/
theorem nodup_upsert {κ : Type} [BEq κ] [LawfulBEq κ] {key : ρ → κ} {merge : ρ → ρ → ρ} {row : ρ}
    {k : κ} (named : key row = k) (keeps : ∀ old, key old = k → key (merge old row) = k)
    (distinct : (rows.map key).Nodup) :
    ((upsert (fun old => key old == k) merge row rows).map key).Nodup := by
  unfold Store.upsert
  split
  · have sameKeys : (rows.map fun old => if key old == k then merge old row else old).map key =
        rows.map key := by
      rw [List.map_map]
      apply List.map_congr_left
      intro old _
      rw [Function.comp_apply]
      split
      · rename_i same
        exact (keeps old (eq_of_beq same)).trans (eq_of_beq same).symm
      · rfl
    rw [sameKeys]
    exact distinct
  · rename_i absent
    apply nodup_map_concat distinct
    simpa [named] using absent

end

/-! ## The invariant -/

/-- What is true of every store that writes of allowed instants lead to. -/
structure Sound (allowed : Instant → Prop) (s : Store) : Prop where
  intact : s.Intact
  held : ∃ entries, s.Holds entries ∧ ∀ e ∈ entries, ∀ t ∈ e.workflow.instants, allowed t
  configs : Written ConfigRow.ofConfig (fun config => ∀ t ∈ config.instants, allowed t) s.configs
  configOwners : (s.configs.map ConfigRow.companyId).Nodup
  assets : Written AssetRow.ofAsset (fun asset => ∀ t ∈ asset.instants, allowed t) s.assets
  assetIds : (s.assets.map AssetRow.id).Nodup
  workOrders : Written WorkOrderRow.ofOrder (fun order => ∀ t ∈ order.toTicket.instants, allowed t)
    s.workOrders
  requests : Written TicketRow.ofTicket (fun ticket => ∀ t ∈ ticket.instants, allowed t) s.requests

variable {allowed : Instant → Prop}

theorem sound_empty : Sound allowed empty where
  intact := rfl
  held := ⟨[], holds_empty, by simp⟩
  configs := written_nil
  configOwners := List.nodup_nil
  assets := written_nil
  assetIds := List.nodup_nil
  workOrders := written_nil
  requests := written_nil

/-- A store that differs from a sound one in none of the tables that are read again is
sound. -/
theorem Sound.congr {s s' : Store} (sound : Sound allowed s) (dropped : s'.dropped = s.dropped)
    (workflows : s'.workflows = s.workflows) (actions : s'.actions = s.actions)
    (conditions : s'.conditions = s.conditions) (configs : s'.configs = s.configs)
    (assets : s'.assets = s.assets) (workOrders : s'.workOrders = s.workOrders)
    (requests : s'.requests = s.requests) : Sound allowed s' := by
  obtain ⟨entries, holds, dated⟩ := sound.held
  exact {
    intact := dropped.trans sound.intact
    held := ⟨entries, holds.congr workflows actions conditions, dated⟩
    configs := configs ▸ sound.configs
    configOwners := configs ▸ sound.configOwners
    assets := assets ▸ sound.assets
    assetIds := assets ▸ sound.assetIds
    workOrders := workOrders ▸ sound.workOrders
    requests := requests ▸ sound.requests }

/-- The instants of an entry that was switched are its own and that of the change. -/
theorem dated_switch {e : Entry} (dated : ∀ t ∈ e.workflow.instants, allowed t) {now : Instant}
    (datedNow : allowed now) (ids : List Uuid) (enabled : Bool) :
    ∀ t ∈ (e.switch ids enabled now).workflow.instants, allowed t := by
  intro t member
  unfold Entry.switch at member
  split at member
  · simp only [Workflow.instants, Workflow.ownInstants, List.cons_append, List.nil_append,
      List.mem_cons] at member dated
    rcases member with rfl | rfl | member
    · exact dated _ (.inl rfl)
    · exact datedNow
    · exact dated _ (.inr (.inr member))
  · exact dated t member

/-- The instants of a ticket that was saved again are its own and those of the ticket it
was saved over. -/
theorem dated_merged {t old : Ticket} (dated : ∀ time ∈ t.instants, allowed time)
    (datedOld : ∀ time ∈ old.instants, allowed time) :
    ∀ time ∈ ({ t with id := old.id, companyId := old.companyId, createdAt := old.createdAt } :
      Ticket).instants, allowed time := by
  intro time member
  rcases List.mem_append.mp member with due | created
  · exact dated time (List.mem_append_left _ due)
  · exact datedOld time (List.mem_append_right _ created)

/-! ### The table of configs -/

section

variable {s s' : Store} (sound : Sound allowed s)
include sound

theorem Sound.addConfig {config : WebhookConfig} (dated : ∀ t ∈ config.instants, allowed t)
    (done : s.addConfig config = .ok s') : Sound allowed s' := by
  obtain ⟨entries, holds, datedEntries⟩ := sound.held
  simp only [Store.addConfig, sound.intact.require, ok_bind, refuse_eq_ok_iff, pure_eq_ok_iff]
    at done
  obtain ⟨free, -, rfl⟩ := done
  refine { sound with
    held := ⟨entries, holds.congr rfl rfl rfl, datedEntries⟩
    configs := sound.configs.append dated
    configOwners := ?_ }
  apply nodup_map_concat sound.configOwners
  simp only [List.any_eq_false, Bool.or_eq_true, beq_iff_eq, not_or] at free
  simpa [ConfigRow.ofConfig] using fun row member => (free row member).1.2

theorem Sound.updateConfig {config : WebhookConfig} (dated : allowed config.updatedAt)
    (done : s.updateConfig config = .ok s') : Sound allowed s' := by
  obtain ⟨entries, holds, datedEntries⟩ := sound.held
  simp only [Store.updateConfig, sound.intact.require, ok_bind, refuse_eq_ok_iff, pure_eq_ok_iff]
    at done
  obtain ⟨-, -, rfl⟩ := done
  refine { sound with
    held := ⟨entries, holds.congr rfl rfl rfl, datedEntries⟩
    configs := sound.configs.map fun old datedOld => ?_
    configOwners := ?_ }
  · split
    · refine ⟨{ old with
        apiKey := config.apiKey
        enabled := config.enabled
        updatedAt := config.updatedAt }, ?_, rfl⟩
      simp only [WebhookConfig.instants, List.forall_mem_cons] at datedOld ⊢
      exact ⟨datedOld.1, dated, by simp⟩
    · exact ⟨old, datedOld, rfl⟩
  · -- The update writes no owner, so the column of the owners is the one from before.
    rw [List.map_map]
    refine (List.map_congr_left fun row _ => ?_) ▸ sound.configOwners
    rw [Function.comp_apply]
    split <;> rfl

theorem Sound.removeConfigOf {company : Uuid} {found : Bool}
    (done : s.removeConfigOf company = .ok (found, s')) : Sound allowed s' := by
  obtain ⟨entries, holds, datedEntries⟩ := sound.held
  simp only [Store.removeConfigOf, sound.intact.require, ok_bind, pure_eq_ok_iff, Prod.mk.injEq]
    at done
  obtain ⟨-, rfl⟩ := done
  exact { sound with
    held := ⟨entries, holds.congr rfl rfl rfl, datedEntries⟩
    configs := sound.configs.filter _
    configOwners := sound.configOwners.sublist (List.filter_sublist.map _) }

/-! ### The tables of workflows -/

theorem Sound.addWorkflow {fresh : Nat → Uuid} {w : Workflow}
    (dated : ∀ t ∈ w.instants, allowed t) (done : s.addWorkflow fresh w = .ok s') :
    Sound allowed s' := by
  obtain ⟨entries, holds, datedEntries⟩ := sound.held
  have held := holds.addWorkflow sound.intact done
  obtain ⟨-, -, -, rfl⟩ := (addWorkflow_eq_ok_iff sound.intact).mp done
  refine { sound with held := ⟨_, held, ?_⟩ }
  intro e member
  rcases List.mem_append.mp member with old | new
  · exact datedEntries e old
  · rw [List.mem_singleton.mp new]
    exact dated

theorem Sound.setEnabled {ids : List Uuid} {enabled : Bool} {now : Instant} (dated : allowed now)
    (done : s.setEnabled ids enabled now = .ok s') : Sound allowed s' := by
  obtain ⟨entries, holds, datedEntries⟩ := sound.held
  have held := holds.setEnabled sound.intact done
  rw [setEnabled_eq sound.intact, Except.ok.injEq] at done
  subst done
  refine { sound with held := ⟨_, held, ?_⟩ }
  rw [List.forall_mem_map]
  exact fun e member => dated_switch (datedEntries e member) dated _ _

theorem Sound.removeWorkflow {id : Uuid} {found : Bool}
    (done : s.removeWorkflow id = .ok (found, s')) : Sound allowed s' := by
  obtain ⟨entries, holds, datedEntries⟩ := sound.held
  have held := holds.removeWorkflow sound.intact done
  rw [holds.removeWorkflow_eq sound.intact, Except.ok.injEq, Prod.mk.injEq] at done
  obtain ⟨-, rfl⟩ := done
  exact { sound with
    held := ⟨_, held, fun e member => datedEntries e (List.mem_of_mem_filter member)⟩ }

/-! ### The tables that a save merges into -/

theorem Sound.saveAsset {asset : Asset} (dated : ∀ t ∈ asset.instants, allowed t)
    (done : s.saveAsset asset = .ok s') : Sound allowed s' := by
  obtain ⟨entries, holds, datedEntries⟩ := sound.held
  simp only [Store.saveAsset, sound.intact.require, ok_bind, pure_eq_ok_iff] at done
  subst done
  refine { sound with
    held := ⟨entries, holds.congr rfl rfl rfl, datedEntries⟩
    assets := sound.assets.upsert dated fun old datedOld => ?_
    assetIds := nodup_upsert (AssetRow.id_ofAsset asset)
      (fun old same => (old.id_merge _).trans same) sound.assetIds }
  exact ⟨{ asset with id := old.id, companyId := old.companyId, createdAt := old.createdAt },
    datedOld, rfl⟩

theorem Sound.saveWorkOrder {order : WorkOrder}
    (dated : ∀ t ∈ order.toTicket.instants, allowed t) (done : s.saveWorkOrder order = .ok s') :
    Sound allowed s' := by
  obtain ⟨entries, holds, datedEntries⟩ := sound.held
  simp only [Store.saveWorkOrder, sound.intact.require, ok_bind, pure_eq_ok_iff] at done
  subst done
  refine { sound with
    held := ⟨entries, holds.congr rfl rfl rfl, datedEntries⟩
    workOrders := sound.workOrders.upsert dated fun old datedOld => ?_ }
  exact ⟨{ order with id := old.id, companyId := old.companyId, createdAt := old.createdAt },
    dated_merged dated datedOld, rfl⟩

theorem Sound.saveRequest {request : Request}
    (dated : ∀ t ∈ request.toTicket.instants, allowed t)
    (done : s.saveRequest request = .ok s') : Sound allowed s' := by
  obtain ⟨entries, holds, datedEntries⟩ := sound.held
  simp only [Store.saveRequest, sound.intact.require, ok_bind, pure_eq_ok_iff] at done
  subst done
  refine { sound with
    held := ⟨entries, holds.congr rfl rfl rfl, datedEntries⟩
    requests := sound.requests.upsert dated fun old datedOld => ?_ }
  exact ⟨{ request.toTicket with
    id := old.id, companyId := old.companyId, createdAt := old.createdAt },
    dated_merged dated datedOld, rfl⟩

/-- A step keeps the tables there, and keeps every row the row of a value. -/
theorem Sound.step (step : Step allowed s s') : Sound allowed s' := by
  cases step with
  | addConfig done dated => exact sound.addConfig dated done
  | updateConfig done dated => exact sound.updateConfig dated done
  | removeConfigOf done => exact sound.removeConfigOf done
  | addWorkflow done dated => exact sound.addWorkflow dated done
  | setEnabled done dated => exact sound.setEnabled dated done
  | removeWorkflow done => exact sound.removeWorkflow done
  | saveAsset done dated => exact sound.saveAsset dated done
  | saveWorkOrder done dated => exact sound.saveWorkOrder dated done
  | saveRequest done dated => exact sound.saveRequest dated done
  -- Nothing is said of the rows of the other tables.
  | addCompany done =>
      rw [eq_of_addCompany done]
      exact sound.congr rfl rfl rfl rfl rfl rfl rfl rfl
  | addUser done =>
      rw [eq_of_addUser done]
      exact sound.congr rfl rfl rfl rfl rfl rfl rfl rfl
  | savePurchaseOrder done =>
      simp only [Store.savePurchaseOrder, sound.intact.require, ok_bind, pure_eq_ok_iff] at done
      subst done
      exact sound.congr rfl rfl rfl rfl rfl rfl rfl rfl
  | advanceCounter done =>
      rw [eq_of_advanceCounter done]
      exact sound.congr rfl rfl rfl rfl rfl rfl rfl rfl

end

/-- Every reachable store is sound. -/
theorem Reachable.sound {s : Store} (reachable : Reachable allowed s) : Sound allowed s := by
  induction reachable with
  | empty => exact sound_empty
  | step _ last ih => exact ih.step last

end Caretaker.Store
