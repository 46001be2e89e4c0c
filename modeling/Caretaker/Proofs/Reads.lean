import Caretaker.Proofs.Operations
import Caretaker.Proofs.Store.Legibility

/-!
# Reads after any operations

Whatever operations a desk has served, its store holds rows that were written from
values, so that a read can only fail on the text of an instant, or because a company has
more workflows than one query takes values for.  All reads therefore succeed exactly when
the store is legible and every company keeps within that limit.  A store that has only
ever been given instants of the years 0 to 9999, and that was written under a clock that
stays in these years, is legible.

Nothing keeps other instants out of the store.  The wire form of an instant admits any
year, and a workflow whose condition has a bound in the year 10000 is stored without
complaint; from then on none of the workflows of its company can be listed.
-/

namespace Caretaker

open Calendar

namespace Desk

/-- Every read that belongs to the service is answered: the workflows of a company, one
workflow that it has, its candidates for a trigger, its work orders and requests, one
work order, one asset, and its configuration by company and by key. -/
structure ReadsSucceed (desk : Desk) : Prop where
  listWorkflows (company : Uuid) : (Workflows.list company).Succeeds desk
  getWorkflow {row : WorkflowRow} (stored : row ∈ desk.store.workflows) {company id : Uuid}
    (owned : row.companyId = company.text) (named : row.id = id.text) :
    (Workflows.get company id).Succeeds desk
  matchWorkflows (company : Uuid) (trigger : Trigger) :
    (Desk.matchWorkflows company trigger).Succeeds desk
  listWorkOrders (company : Uuid) : (Desk.listWorkOrders company).Succeeds desk
  listRequests (company : Uuid) : (Desk.listRequests company).Succeeds desk
  findWorkOrder (id : Uuid) : (Desk.findWorkOrder id).Succeeds desk
  findAsset (id : Uuid) : (Desk.findAsset id).Succeeds desk
  findConfigOf (company : Uuid) : (Desk.findConfigOf company).Succeeds desk
  findConfigByKey (apiKey : String) : (Desk.findConfigByKey apiKey).Succeeds desk

variable {allowed : Instant → Prop} {desk : Desk}

/-! ## A legible store answers -/

/-- A stored workflow is found, by whoever owns it. -/
theorem getWorkflow_succeeds (sound : Store.Sound allowed desk.store)
    (working : desk.outages = []) (legible : desk.store.Legible) {row : WorkflowRow}
    (stored : row ∈ desk.store.workflows) {company id : Uuid}
    (owned : row.companyId = company.text) (named : row.id = id.text) :
    (Workflows.get company id).Succeeds desk := by
  obtain ⟨entries, holds, -⟩ := sound.held
  rw [holds.workflows] at stored
  obtain ⟨e, member, rfl⟩ := List.mem_map.mp stored
  have ownId : e.workflow.id = id := Uuid.text_injective named
  have ownCompany : e.workflow.companyId = company := Uuid.text_injective owned
  have located : (entries.find? fun other => other.workflow.id = id) = some e := by
    apply Store.find?_eq_some_of_unique member (decide_eq_true ownId)
    intro other memberOther picked
    exact holds.eq_of_id memberOther member ((of_decide_eq_true picked).trans ownId.symm)
  have answer : desk.store.findWorkflow id = .ok (some e.workflow.stored) := by
    rw [holds.findWorkflow_eq_ok_iff sound.intact, located]
    exact ⟨fun other memberOther _ => (holds.legible_iff.mp legible).1 other memberOther, rfl⟩
  refine ⟨e.workflow.stored, ?_⟩
  have owner : e.workflow.stored.companyId = company := ownCompany
  have visible : (some e.workflow.stored).filter (fun w => w.companyId = company) =
      some e.workflow.stored := by
    simp [owner]
  simp [Workflows.get, Desk.findWorkflow, Job.run_through, working, answer, visible, Job.orFail]

/-- The rows that a query picked and sorted are all readable if the table is. -/
theorem readAll_succeeds {ρ α : Type} {read : ρ → Except StoreError α} {rows : List ρ}
    {key : ρ → String × String} {picked : ρ → Bool}
    (readable : ∀ row ∈ rows, ∃ value, read row = .ok value) :
    ∃ values, Store.readAll read (Store.oldestFirst key (rows.filter picked)) = .ok values := by
  rw [Store.readAll_succeeds_iff]
  intro row member
  exact readable row (List.mem_of_mem_filter (Store.mem_oldestFirst.mp member))

theorem readOne_succeeds {ρ α : Type} {read : ρ → Except StoreError α} {rows : List ρ}
    {picked : ρ → Bool} (readable : ∀ row ∈ rows, ∃ value, read row = .ok value) :
    ∃ value, Store.readOne read (rows.find? picked) = .ok value := by
  rw [Store.readOne_succeeds_iff]
  intro row located
  exact readable row (List.mem_of_find?_eq_some located)

theorem readsSucceed_of_legible (sound : Store.Sound allowed desk.store)
    (working : desk.outages = []) (legible : desk.store.Legible)
    (within : desk.store.WithinLimit) : desk.ReadsSucceed := by
  obtain ⟨entries, holds, -⟩ := sound.held
  have intact := sound.intact
  have few := holds.withinLimit_iff.mp within
  obtain ⟨workflows, configs, assets, workOrders, requests⟩ := holds.legible_iff.mp legible
  have configsReadable : ∀ row ∈ desk.store.configs, ∃ config, row.config = .ok config :=
    fun row member => (sound.config_readable_iff member).mpr (configs row member)
  have assetsReadable : ∀ row ∈ desk.store.assets, ∃ asset, row.asset = .ok asset :=
    fun row member => (sound.asset_readable_iff member).mpr (assets row member)
  have ordersReadable : ∀ row ∈ desk.store.workOrders, ∃ order, row.order = .ok order :=
    fun row member => (sound.order_readable_iff member).mpr (workOrders row member)
  have requestsReadable : ∀ row ∈ desk.store.requests,
      ∃ request, Store.readRequest row = .ok request :=
    fun row member => (sound.request_readable_iff member).mpr (requests row member)
  constructor
  case listWorkflows =>
    intro company
    apply Job.succeeds_mapError_iff.mpr
    apply (Job.succeeds_read_iff working).mpr
    exact ⟨_, (holds.workflowsOf_eq_ok_iff intact).mpr
      ⟨fun e member _ => workflows e member, few company, rfl⟩⟩
  case getWorkflow =>
    intro row stored company id owned named
    exact getWorkflow_succeeds sound working legible stored owned named
  case matchWorkflows =>
    intro company trigger
    apply (Job.succeeds_read_iff working).mpr
    -- The candidates are some of the workflows of the company.
    have fewer : (entries.filter fun e =>
        e.workflow.companyId = company ∧ e.workflow.trigger = trigger).length ≤
          (entries.filter fun e => e.workflow.companyId = company).length := by
      apply List.Sublist.length_le
      apply List.monotone_filter_right
      exact fun e both => decide_eq_true (of_decide_eq_true both).1
    exact ⟨_, (holds.workflowsFor_eq_ok_iff intact).mpr
      ⟨fun e member _ => workflows e member, Nat.le_trans fewer (few company), rfl⟩⟩
  case listWorkOrders =>
    intro company
    apply (Job.succeeds_read_iff working).mpr
    simp only [Store.workOrdersOf, intact.require, ok_bind]
    exact readAll_succeeds ordersReadable
  case listRequests =>
    intro company
    apply (Job.succeeds_read_iff working).mpr
    simp only [Store.requestsOf, intact.require, ok_bind]
    exact readAll_succeeds requestsReadable
  case findWorkOrder =>
    intro id
    apply (Job.succeeds_read_iff working).mpr
    simp only [Store.findWorkOrder, intact.require, ok_bind]
    exact readOne_succeeds ordersReadable
  case findAsset =>
    intro id
    apply (Job.succeeds_read_iff working).mpr
    simp only [Store.findAsset, intact.require, ok_bind]
    exact readOne_succeeds assetsReadable
  case findConfigOf =>
    intro company
    apply (Job.succeeds_read_iff working).mpr
    simp only [Store.findConfigOf, intact.require, ok_bind]
    exact readOne_succeeds configsReadable
  case findConfigByKey =>
    intro apiKey
    apply (Job.succeeds_read_iff working).mpr
    simp only [Store.findConfigByKey, intact.require, ok_bind]
    exact readOne_succeeds configsReadable

/-! ## A store that answers is legible -/

/-- Every row of a table with distinct keys is found under its key. -/
theorem find?_of_nodup {ρ : Type} {key : ρ → String} {rows : List ρ}
    (distinct : (rows.map key).Nodup) {row : ρ} (member : row ∈ rows) :
    (rows.find? fun other => key other == key row) = some row := by
  have own : (key row == key row) = true := beq_self_eq_true _
  refine Store.find?_eq_some_of_unique member own ?_
  intro other memberOther same
  exact List.inj_on_of_nodup_map distinct memberOther member (eq_of_beq same)

theorem legible_of_readsSucceed (sound : Store.Sound allowed desk.store)
    (working : desk.outages = []) (reads : desk.ReadsSucceed) : desk.store.Legible := by
  obtain ⟨entries, holds, -⟩ := sound.held
  have intact := sound.intact
  apply holds.legible_iff.mpr
  refine ⟨?_, ?_, ?_, ?_, ?_⟩
  · intro e member
    have answered := Job.succeeds_mapError_iff.mp (reads.listWorkflows e.workflow.companyId)
    obtain ⟨found, answer⟩ := (Job.succeeds_read_iff working).mp answered
    exact ((holds.workflowsOf_eq_ok_iff intact).mp answer).1 e member rfl
  · intro row member
    obtain ⟨config, -, rfl⟩ := sound.configs row member
    obtain ⟨found, answer⟩ := (Job.succeeds_read_iff working).mp (reads.findConfigOf config.companyId)
    have located := find?_of_nodup sound.configOwners member
    simp only [Store.findConfigOf, intact.require, ok_bind] at answer
    have readable := Store.readOne_succeeds_iff.mp ⟨found, answer⟩
    exact (sound.config_readable_iff member).mp (readable _ located)
  · intro row member
    obtain ⟨asset, -, rfl⟩ := sound.assets row member
    obtain ⟨found, answer⟩ := (Job.succeeds_read_iff working).mp (reads.findAsset asset.id)
    have located := find?_of_nodup sound.assetIds member
    simp only [Store.findAsset, intact.require, ok_bind] at answer
    have readable := Store.readOne_succeeds_iff.mp ⟨found, answer⟩
    exact (sound.asset_readable_iff member).mp (readable _ located)
  · intro row member
    obtain ⟨order, -, rfl⟩ := sound.workOrders row member
    obtain ⟨found, answer⟩ := (Job.succeeds_read_iff working).mp (reads.listWorkOrders order.companyId)
    simp only [Store.workOrdersOf, intact.require, ok_bind] at answer
    have readable := Store.readAll_succeeds_iff.mp ⟨found, answer⟩
    apply (sound.order_readable_iff member).mp
    apply readable
    rw [Store.mem_oldestFirst, List.mem_filter]
    exact ⟨member, beq_self_eq_true _⟩
  · intro row member
    obtain ⟨ticket, -, rfl⟩ := sound.requests row member
    obtain ⟨found, answer⟩ := (Job.succeeds_read_iff working).mp (reads.listRequests ticket.companyId)
    simp only [Store.requestsOf, intact.require, ok_bind] at answer
    have readable := Store.readAll_succeeds_iff.mp ⟨found, answer⟩
    apply (sound.request_readable_iff member).mp
    apply readable
    rw [Store.mem_oldestFirst, List.mem_filter]
    exact ⟨member, beq_self_eq_true _⟩

theorem withinLimit_of_readsSucceed (sound : Store.Sound allowed desk.store)
    (working : desk.outages = []) (reads : desk.ReadsSucceed) : desk.store.WithinLimit := by
  obtain ⟨entries, holds, -⟩ := sound.held
  apply holds.withinLimit_iff.mpr
  intro company
  have answered := Job.succeeds_mapError_iff.mp (reads.listWorkflows company)
  obtain ⟨found, answer⟩ := (Job.succeeds_read_iff working).mp answered
  exact ((holds.workflowsOf_eq_ok_iff sound.intact).mp answer).2.1

/-- A store that was only ever given legible instants is legible. -/
theorem legible_of_sound {s : Store} (sound : Store.Sound Instant.Legible s) : s.Legible := by
  obtain ⟨entries, holds, dated⟩ := sound.held
  apply holds.legible_iff.mpr
  refine ⟨dated, ?_, ?_, ?_, ?_⟩
  · intro row member
    obtain ⟨config, legible, rfl⟩ := sound.configs row member
    exact legibleTexts_iff.mpr legible
  · intro row member
    obtain ⟨asset, legible, rfl⟩ := sound.assets row member
    exact legibleTexts_iff.mpr legible
  · intro row member
    obtain ⟨order, legible, rfl⟩ := sound.workOrders row member
    rw [WorkOrderRow.instantTexts_ofOrder]
    exact legibleTexts_iff.mpr legible
  · intro row member
    obtain ⟨ticket, legible, rfl⟩ := sound.requests row member
    rw [TicketRow.instantTexts_ofTicket]
    exact legibleTexts_iff.mpr legible

/-- At a desk whose rows were all written from values, the reads succeed exactly when the
store is legible and no company has too many workflows. -/
theorem readsSucceed_iff (sound : Store.Sound allowed desk.store) (working : desk.outages = []) :
    desk.ReadsSucceed ↔ desk.store.Legible ∧ desk.store.WithinLimit := by
  constructor
  · intro reads
    exact ⟨legible_of_readsSucceed sound working reads,
      withinLimit_of_readsSucceed sound working reads⟩
  · rintro ⟨legible, within⟩
    exact readsSucceed_of_legible sound working legible within

/-! ## After any operations -/

/-- Whatever a desk was asked to do since its store was empty, its reads succeed exactly
when every instant that they come upon lies in the years 0 to 9999 and no company has more
workflows than one query takes values for.  The instants do so when all that came with the
operations, and all readings of the clock, lie in these years. -/
theorem readsSucceed_after_serving {start : Desk} (blank : start.store = .empty)
    (working : start.outages = []) (operations : List Operation) :
    ((start.serve operations).ReadsSucceed ↔
        (start.serve operations).store.Legible ∧ (start.serve operations).store.WithinLimit) ∧
      ((∀ operation ∈ operations, AllLegible operation.instants) →
        (∀ n, (start.source.now n).Legible) → (start.serve operations).store.WithinLimit →
          (start.serve operations).ReadsSucceed) := by
  constructor
  · have served : (start.serve operations).Orderly fun _ => True :=
      (orderly_of_empty blank working fun _ => trivial).serve fun _ _ _ _ => trivial
    exact readsSucceed_iff served.reachable.sound served.working
  · intro dated clock within
    have served : (start.serve operations).Orderly Instant.Legible :=
      (orderly_of_empty blank working clock).serve dated
    have sound := served.reachable.sound
    exact readsSucceed_of_legible sound served.working (legible_of_sound sound) within

/-- A draft with one condition, which admits what was created from an instant on. -/
def draftSince (t : Instant) : WorkflowDraft where
  title := "Old work"
  trigger := .workOrder
  conditions := [{ Condition.empty with createdTimeStart := some t }]
  action := none

theorem readsSucceed_after_ordinary_draft :
    ((blank (newYear 2026 (by decide))).serve
      [.createWorkflow (Uuid.ofNat 7) (draftSince (newYear 2025 (by decide)))]).ReadsSucceed := by
  have bounds : AllLegible (draftSince (newYear 2025 (by decide))).instants := by
    show AllLegible [newYear 2025 (by decide)]
    rw [allLegible_cons]
    exact ⟨by decide, allLegible_nil⟩
  have clock : (newYear 2026 (by decide)).Legible := by decide
  have few : ((blank (newYear 2026 (by decide))).serve [.createWorkflow (Uuid.ofNat 7)
      (draftSince (newYear 2025 (by decide)))]).store.workflows.length ≤ Store.valueLimit := by
    decide +kernel
  apply (readsSucceed_after_serving rfl rfl _).2
  · exact List.forall_mem_singleton.mpr bounds
  · exact fun _ => clock
  · exact fun _ => Nat.le_trans (List.length_filter_le _ _) few

/-- Storing a bound of the year 10000 succeeds, and then the workflows of the company can
no longer be listed. -/
theorem reads_fail_after_far_draft :
    (Workflows.create (Uuid.ofNat 7) (draftSince (newYear 10000 (by decide)))).Succeeds
        (blank (newYear 2026 (by decide))) ∧
      ¬((blank (newYear 2026 (by decide))).serve
        [.createWorkflow (Uuid.ofNat 7) (draftSince (newYear 10000 (by decide)))]).ReadsSucceed := by
  constructor
  · rw [Job.succeeds_iff_isDone]
    decide +kernel
  · intro reads
    have listed := Job.succeeds_iff_isDone.mp (reads.listWorkflows (Uuid.ofNat 7))
    revert listed
    decide +kernel

end Desk

end Caretaker
