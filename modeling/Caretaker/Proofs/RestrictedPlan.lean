import Caretaker.Proofs.Operations
import Caretaker.Proofs.Store.Aligned
import Caretaker.Proofs.Survivor

/-!
# What a change of plan leaves switched on

On the restricted plan a company keeps the workflow that was created first, and on the
unrestricted plan it keeps all.  Both changes of plan read the workflows of the company,
and then bring their flags into line with the plan.

The list that is read is in the order of creation, so that the workflow that is kept is
its first.  A list whose flags are in line gives rise to no batch at all: that is why a
change of plan, made again, leaves everything as it is.
-/

namespace Caretaker

open Calendar Job

/-! ## Batches -/

namespace Workflow

/-- The workflows that are on and are not to be. -/
def extra (on : List Uuid) (found : List Workflow) : List Uuid :=
  (found.filter fun w => w.id ∉ on && w.enabled).map Workflow.id

/-- The workflows that are off and are to be on. -/
def missing (on : List Uuid) (found : List Workflow) : List Uuid :=
  (found.filter fun w => w.id ∈ on && !w.enabled).map Workflow.id

variable {on : List Uuid} {found : List Workflow}

/-- Each misset workflow is in one of the batches. -/
theorem length_extra_add_length_missing :
    (extra on found).length + (missing on found).length = found.countP (misset on) := by
  rw [extra, missing, List.length_map, List.length_map]
  induction found with
  | nil => rfl
  | cons w rest ih =>
      rw [List.filter_cons, List.filter_cons, List.countP_cons, ← ih]
      by_cases wanted : w.id ∈ on <;> cases flag : w.enabled <;>
        simp [misset, wanted, flag] <;> omega

/-- Where nothing is misset both batches are empty. -/
theorem batches_of_right (right : ∀ w ∈ found, w.misset on = false) :
    extra on found = [] ∧ missing on found = [] := by
  have none_ : found.countP (misset on) = 0 := by
    rw [List.countP_eq_zero]
    intro w member
    rw [right w member]
    exact Bool.false_ne_true
  rw [← length_extra_add_length_missing, Nat.add_eq_zero_iff] at none_
  exact ⟨List.eq_nil_of_length_eq_zero none_.1, List.eq_nil_of_length_eq_zero none_.2⟩

end Workflow

namespace Desk

/-- Switch workflows in one batch, unless there are none. -/
def switchAny (ids : List Uuid) (enabled : Bool) : Job StoreError Unit :=
  if !ids.isEmpty then setWorkflowsEnabled ids enabled else pure ()

theorem switchAny_bind {α : Type} (ids : List Uuid) (enabled : Bool)
    (next : Unit → Job StoreError α) :
    switchAny ids enabled >>= next =
      if !ids.isEmpty then setWorkflowsEnabled ids enabled >>= next else next () := by
  unfold switchAny
  split
  · rfl
  · rw [pure_bind]

/-- The desk with the rows of these entries as its rows of workflows, after some draws from
its source. -/
def withEntries (desk : Desk) (entries : List Entry) (draws : Nat) : Desk :=
  { desk with
    store := { desk.store with workflows := entries.map Entry.row }
    source := { desk.source with drawn := desk.source.drawn + draws } }

theorem run_switchAny (desk : Desk) {entries : List Entry}
    (writable : desk.outages.lookup .setWorkflowsEnabled = none)
    (intact : desk.store.Intact) (holds : desk.store.Holds entries) (ids : List Uuid)
    (enabled : Bool) :
    ∃ draws, (switchAny ids enabled).run desk = (.done (), desk.withEntries
      (entries.map (Entry.switch ids enabled (desk.source.now desk.source.drawn))) draws) := by
  cases ids with
  | nil =>
      have same : entries.map (Entry.switch [] enabled (desk.source.now desk.source.drawn)) =
          entries := by
        rw [List.map_congr_left fun e _ => Entry.switch_of_not_mem List.not_mem_nil enabled _]
        exact List.map_id _
      refine ⟨0, ?_⟩
      rw [same, withEntries, ← holds.workflows]
      rfl
  | cons id rest =>
      refine ⟨1, ?_⟩
      have switched := holds.setEnabled_rows intact (id :: rest) enabled
        (desk.source.now desk.source.drawn)
      show (through .setWorkflowsEnabled _).run desk = _
      rw [run_through writable, run_bind, run_now]
      dsimp only
      rw [run_write, switched]
      rfl

/-- The desk with the workflows of a company brought into line, after some draws from its
source. -/
def aligned (desk : Desk) (company : Uuid) (on : List Uuid) (stamp : Bool → Instant)
    (draws : Nat) : Desk :=
  { desk with
    store := desk.store.aligned company on stamp
    source := { desk.source with drawn := desk.source.drawn + draws } }

/-- What is switched off and what is switched on is dated with readings of the clock that
come after those the desk has drawn already. -/
def Dates (desk : Desk) (stamp : Bool → Instant) : Prop :=
  ∀ flag, ∃ n, desk.source.drawn ≤ n ∧ stamp flag = desk.source.now n

/-- The workflows of a company can be read at the desk, and switched. -/
structure Lists (desk : Desk) (company : Uuid) (entries : List Entry) (found : List Workflow) :
    Prop where
  intact : desk.store.Intact
  holds : desk.store.Holds entries
  readable : desk.outages.lookup .listWorkflows = none
  writable : desk.outages.lookup .setWorkflowsEnabled = none
  answer : desk.store.workflowsOf company = .ok found

end Desk

namespace Workflows

/-- Both batches, and then the report. -/
def settle (kept : Option Uuid) (extra missing : List Uuid) : Job StoreError PlanReport := do
  Desk.switchAny extra false
  Desk.switchAny missing true
  return ⟨kept, extra.length + missing.length⟩

/-- Everything but the survivor is switched off, and the survivor on. -/
theorem restrictPlan_eq (company : Uuid) :
    restrictPlan company = (do
      let found ← Desk.listWorkflows company
      match Workflow.survivor found with
      | none => settle none [] []
      | some w =>
          settle (some w.id) (Workflow.extra [w.id] found) (if w.enabled then [] else [w.id])) := by
  apply congrArg (Desk.listWorkflows company >>= ·)
  funext found
  cases Workflow.survivor found with
  | none => rfl
  | some w =>
      have others : Workflow.extra [w.id] found =
          (found.filter fun v => v.id ≠ w.id && v.enabled).map Workflow.id := by
        simp [Workflow.extra]
      dsimp only
      rw [others, settle, Desk.switchAny_bind, Desk.switchAny_bind]
      cases w.enabled <;> rfl

theorem liftPlan_eq (company : Uuid) :
    liftPlan company = (do
      let found ← Desk.listWorkflows company
      settle none [] ((found.filter fun w => !w.enabled).map Workflow.id)) := by
  apply congrArg (Desk.listWorkflows company >>= ·)
  funext found
  rw [settle, Desk.switchAny_bind, Desk.switchAny_bind, List.length_nil, Nat.zero_add]
  rfl

end Workflows

/-! ## Plans -/

/-- A plan that a company can be on. -/
inductive Plan where
  | restricted
  | unrestricted

namespace Plan

/-- The change to the plan. -/
def change (company : Uuid) : Plan → Job StoreError PlanReport
  | restricted => Workflows.restrictPlan company
  | unrestricted => Workflows.liftPlan company

/-- The workflow that is reported as kept. -/
def kept (found : List Workflow) : Plan → Option Uuid
  | restricted => found.head?.map Workflow.id
  | unrestricted => none

/-- The workflows that the plan leaves switched on. -/
def on (found : List Workflow) : Plan → List Uuid
  | restricted => (found.head?.map Workflow.id).toList
  | unrestricted => found.map Workflow.id

variable {plan : Plan} {found : List Workflow} {company : Uuid} {desk : Desk}
  {entries : List Entry}

theorem mem_map_of_mem_on {id : Uuid} (listed : id ∈ plan.on found) :
    id ∈ found.map Workflow.id := by
  cases plan with
  | restricted =>
      rw [on, Option.mem_toList, Option.map_eq_some_iff] at listed
      obtain ⟨w, first, rfl⟩ := listed
      exact List.mem_map_of_mem (List.mem_of_mem_head? first)
  | unrestricted => exact listed

/-- A plan goes by the identifiers. -/
theorem on_aligned {ids : List Uuid} {stamp : Bool → Instant} :
    plan.on (found.map (Workflow.aligned ids stamp)) = plan.on found := by
  cases plan with
  | restricted => simp [on, Function.comp_def]
  | unrestricted => simp [on, Function.comp_def]

theorem kept_aligned {ids : List Uuid} {stamp : Bool → Instant} :
    plan.kept (found.map (Workflow.aligned ids stamp)) = plan.kept found := by
  cases plan with
  | restricted => simp [kept, Function.comp_def]
  | unrestricted => rfl

/-- Where all workflows are to be on, those that are off are missing and none is extra. -/
theorem batches_unrestricted (found : List Workflow) :
    Workflow.extra (unrestricted.on found) found = [] ∧
      Workflow.missing (unrestricted.on found) found =
        (found.filter fun w => !w.enabled).map Workflow.id := by
  have wanted : ∀ w ∈ found, w.id ∈ unrestricted.on found :=
    fun w member => List.mem_map_of_mem member
  constructor
  · rw [Workflow.extra, List.map_eq_nil_iff, List.filter_eq_nil_iff]
    intro w member
    simp [wanted w member]
  · apply congrArg (List.map Workflow.id)
    apply List.filter_congr
    intro w member
    simp [wanted w member]

/-- Where only one workflow is to be on, it is missing unless it is on. -/
theorem missing_singleton {w : Workflow} (distinct : (found.map Workflow.id).Nodup)
    (member : w ∈ found) :
    Workflow.missing [w.id] found = if w.enabled then [] else [w.id] := by
  have parts : found.filter (fun v => decide (v.id ∈ [w.id]) && !v.enabled) =
      (found.filter fun v => v.id = w.id).filter fun v => !v.enabled := by
    rw [List.filter_filter]
    apply List.filter_congr
    intro v _
    simp [Bool.and_comm]
  rw [Workflow.missing, parts, Store.filter_key_eq_singleton distinct member]
  cases flag : w.enabled <;> simp [flag]

end Plan

namespace Desk.Lists

variable {plan : Plan} {found : List Workflow} {company : Uuid} {desk : Desk}
  {entries : List Entry} {on : List Uuid} {stamp : Bool → Instant}

theorem run_listWorkflows (lists : desk.Lists company entries found) :
    (listWorkflows company).run desk = (.done found, desk) := by
  rw [listWorkflows, run_through lists.readable, run_read, lists.answer]

theorem found_eq (lists : desk.Lists company entries found) :
    (Store.oldestEntries (Store.ownEntries company entries)).map (fun e => e.workflow.stored) =
      found :=
  ((lists.holds.workflowsOf_eq_ok_iff lists.intact).mp lists.answer).2.2

theorem distinct (lists : desk.Lists company entries found) : (found.map Workflow.id).Nodup := by
  rw [← lists.found_eq, List.map_map]
  have sorted := (Store.oldestEntries_perm (Store.ownEntries company entries)).map
    fun e => e.workflow.id
  exact sorted.nodup_iff.mpr (lists.holds.distinctIds.sublist (List.filter_sublist.map _))

/-- Earlier in the list is earlier in time. -/
theorem sorted (lists : desk.Lists company entries found) :
    found.Pairwise fun a b => Older (a.createdAt, a.id) (b.createdAt, b.id) := by
  obtain ⟨legible, -, rfl⟩ := (lists.holds.workflowsOf_eq_ok_iff lists.intact).mp lists.answer
  exact lists.holds.pairwise_older fun e member own => legible e member (of_decide_eq_true own)

/-- The survivor is the first of the list. -/
theorem survivor_eq (lists : desk.Lists company entries found) :
    Workflow.survivor found = found.head? := by
  apply Workflow.survivor_eq_head?
  simp only [Workflow.createdBefore_iff]
  exact lists.sorted

/-- An entry is among those that were picked from the list if it is one of the company and
passes the test. -/
theorem id_mem_filter_iff (lists : desk.Lists company entries found) (picked : Workflow → Bool)
    {e : Entry} (member : e ∈ entries) :
    e.workflow.id ∈ (found.filter picked).map Workflow.id ↔
      e.workflow.companyId = company ∧ picked e.workflow.stored = true := by
  rw [← lists.found_eq, List.filter_map, List.map_map, List.mem_map]
  simp only [List.mem_filter, Store.mem_oldestEntries, Store.ownEntries, decide_eq_true_eq]
  constructor
  · rintro ⟨other, ⟨⟨memberOther, own⟩, passes⟩, same⟩
    rw [lists.holds.eq_of_id memberOther member same] at own passes
    exact ⟨own, passes⟩
  · rintro ⟨own, passes⟩
    exact ⟨e, ⟨⟨member, own⟩, passes⟩, rfl⟩

/-- What is listed of a company is what the store has of it. -/
theorem idsOf_eq (lists : desk.Lists company entries found) :
    desk.store.idsOf company = { id | id ∈ found.map Workflow.id } := by
  ext id
  simp only [Store.idsOf, lists.holds.workflows, Set.mem_ofPred_eq, ← lists.found_eq,
    List.map_map, List.mem_map, Store.mem_oldestEntries, Store.ownEntries, List.mem_filter,
    decide_eq_true_eq]
  constructor
  · rintro ⟨_, ⟨e, member, rfl⟩, named, owned⟩
    exact ⟨e, ⟨member, Uuid.text_injective owned⟩, Uuid.text_injective named⟩
  · rintro ⟨e, ⟨member, own⟩, named⟩
    exact ⟨_, ⟨e, member, rfl⟩, congrArg Uuid.text named, congrArg Uuid.text own⟩

theorem mem_extra_iff (lists : desk.Lists company entries found) {e : Entry}
    (member : e ∈ entries) : e.workflow.id ∈ Workflow.extra on found ↔
      e.workflow.companyId = company ∧ e.workflow.enabled = true ∧ e.workflow.id ∉ on := by
  rw [Workflow.extra, lists.id_mem_filter_iff _ member, Bool.and_eq_true, decide_eq_true_iff]
  exact and_congr_right fun _ => and_comm

theorem mem_missing_iff (lists : desk.Lists company entries found) {e : Entry}
    (member : e ∈ entries) : e.workflow.id ∈ Workflow.missing on found ↔
      e.workflow.companyId = company ∧ e.workflow.enabled = false ∧ e.workflow.id ∈ on := by
  rw [Workflow.missing, lists.id_mem_filter_iff _ member, Bool.and_eq_true, decide_eq_true_iff,
    Bool.not_eq_true']
  exact and_congr_right fun _ => and_comm

/-- The two batches bring the entries into line. -/
theorem map_switch_switch (lists : desk.Lists company entries found) (on : List Uuid)
    (stamp : Bool → Instant) :
    (entries.map (Entry.switch (Workflow.extra on found) false (stamp false))).map
        (Entry.switch (Workflow.missing on found) true (stamp true)) =
      entries.map (Entry.aligned company on stamp) := by
  rw [List.map_map]
  apply List.map_congr_left
  intro e member
  exact Entry.switch_switch (lists.mem_extra_iff member) (lists.mem_missing_iff member)

/-- The two batches bring the desk into line. -/
theorem run_settle (lists : desk.Lists company entries found) (kept : Option Uuid)
    (on : List Uuid) :
    ∃ stamp draws, desk.Dates stamp ∧
      (Workflows.settle kept (Workflow.extra on found) (Workflow.missing on found)).run desk =
        (.done ⟨kept, found.countP (Workflow.misset on)⟩, desk.aligned company on stamp draws) := by
  -- The second batch meets the entries as the first one left them.
  have held := lists.holds.setEnabled lists.intact (lists.holds.setEnabled_rows lists.intact
    (Workflow.extra on found) false (desk.source.now desk.source.drawn))
  obtain ⟨first, runFirst⟩ := run_switchAny desk lists.writable lists.intact lists.holds
    (Workflow.extra on found) false
  let middle := desk.withEntries (entries.map (Entry.switch (Workflow.extra on found) false
    (desk.source.now desk.source.drawn))) first
  obtain ⟨second, runSecond⟩ := run_switchAny middle lists.writable lists.intact held
    (Workflow.missing on found) true
  let stamp (flag : Bool) : Instant :=
    if flag then middle.source.now middle.source.drawn else desk.source.now desk.source.drawn
  refine ⟨stamp, first + second, ?_, ?_⟩
  · rintro (_ | _)
    · exact ⟨desk.source.drawn, Nat.le_refl _, rfl⟩
    · exact ⟨desk.source.drawn + first, Nat.le_add_right _ _, rfl⟩
  · have inLine : middle.withEntries ((entries.map (Entry.switch (Workflow.extra on found) false
        (stamp false))).map (Entry.switch (Workflow.missing on found) true (stamp true))) second =
          desk.aligned company on stamp (first + second) := by
      rw [lists.map_switch_switch, Desk.aligned, lists.holds.aligned_eq, ← Nat.add_assoc]
      rfl
    rw [Workflows.settle, run_bind, runFirst, ← Workflow.length_extra_add_length_missing, ← inLine]
    dsimp only
    rw [run_bind, runSecond]
    rfl

/-- A change of plan is two batches, once the workflows of the company were read. -/
theorem run_change_eq (lists : desk.Lists company entries found) (plan : Plan) :
    (plan.change company).run desk = (Workflows.settle (plan.kept found)
      (Workflow.extra (plan.on found) found) (Workflow.missing (plan.on found) found)).run desk := by
  have listed := lists.run_listWorkflows
  cases plan with
  | restricted =>
      rw [Plan.change, Workflows.restrictPlan_eq, run_bind, listed]
      dsimp only
      rw [lists.survivor_eq]
      cases found with
      | nil => rfl
      | cons w rest =>
          have onlyFirst : Plan.restricted.on (w :: rest) = [w.id] := rfl
          rw [onlyFirst, Plan.missing_singleton lists.distinct List.mem_cons_self]
          rfl
  | unrestricted =>
      obtain ⟨noExtra, allMissing⟩ := Plan.batches_unrestricted found
      rw [Plan.change, Workflows.liftPlan_eq, run_bind, listed, noExtra, allMissing]
      rfl

/-- A change of plan brings the flags into line with the plan, and counts those that were
not. -/
theorem run_change (lists : desk.Lists company entries found) (plan : Plan) :
    ∃ stamp draws, desk.Dates stamp ∧ (plan.change company).run desk =
      (.done ⟨plan.kept found, found.countP (Workflow.misset (plan.on found))⟩,
        desk.aligned company (plan.on found) stamp draws) := by
  rw [lists.run_change_eq]
  exact lists.run_settle _ _

/-- A change to the plan that the company is on already leaves the desk alone. -/
theorem run_change_of_right (lists : desk.Lists company entries found) {plan : Plan}
    (right : ∀ w ∈ found, w.misset (plan.on found) = false) :
    (plan.change company).run desk = (.done ⟨plan.kept found, 0⟩, desk) := by
  obtain ⟨noExtra, noMissing⟩ := Workflow.batches_of_right right
  rw [lists.run_change_eq, noExtra, noMissing]
  rfl

/-- After the flags were brought into line the workflows are listed as before, in line. -/
theorem aligned (lists : desk.Lists company entries found) (on : List Uuid)
    (dated : ∀ flag, (stamp flag).Legible) (draws : Nat) :
    (desk.aligned company on stamp draws).Lists company
      (entries.map (Entry.aligned company on stamp)) (found.map (Workflow.aligned on stamp)) where
  intact := lists.intact
  holds := lists.holds.aligned
  readable := lists.readable
  writable := lists.writable
  answer := lists.holds.workflowsOf_aligned lists.intact dated lists.answer

/-- The flags that changed are those that were not in line. -/
theorem flagsChanged_aligned (lists : desk.Lists company entries found) (on : List Uuid)
    (stamp : Bool → Instant) (draws : Nat) :
    desk.store.flagsChanged (desk.aligned company on stamp draws).store =
      found.countP (Workflow.misset on) := by
  rw [← lists.found_eq, List.countP_map, (Store.oldestEntries_perm _).countP_eq]
  exact lists.holds.flagsChanged_aligned

/-- The plan decides which workflows of the company are switched on afterwards. -/
theorem enabledOf_aligned (lists : desk.Lists company entries found) (plan : Plan) (draws : Nat) :
    (desk.aligned company (plan.on found) stamp draws).store.enabledOf company =
      { id | id ∈ plan.on found } := by
  apply lists.holds.enabledOf_aligned
  intro id listed
  have named := Plan.mem_map_of_mem_on listed
  rw [← lists.found_eq, List.map_map, List.mem_map] at named
  obtain ⟨e, picked, rfl⟩ := named
  obtain ⟨member, own⟩ := List.mem_filter.mp (Store.mem_oldestEntries.mp picked)
  exact ⟨e, member, rfl, of_decide_eq_true own⟩

end Desk.Lists

/-! ## Changes of plan -/

namespace Plan

/-- How a change of plan goes at a desk where the company has these workflows, and what it
leaves behind.  It counts the flags that changed, which are those that were misset.  The
later desk differs from the first in the rows of these workflows only, and in what was drawn
from the source.  Made again, the change leaves the later desk as it is. -/
structure Settles (plan : Plan) (company : Uuid) (found : List Workflow) (desk later : Desk) :
    Prop where
  run : (plan.change company).run desk =
    (.done ⟨plan.kept found, desk.store.flagsChanged later.store⟩, later)
  changed : desk.store.flagsChanged later.store = found.countP (Workflow.misset (plan.on found))
  enabled : later.store.enabledOf company = { id | id ∈ plan.on found }
  written : ∃ stamp draws, desk.Dates stamp ∧
    later = desk.aligned company (plan.on found) stamp draws ∧
      ((∀ n, (desk.source.now n).Legible) → (Desk.listWorkflows company).run later =
        (.done (found.map (Workflow.aligned (plan.on found) stamp)), later))
  again : (∀ n, (desk.source.now n).Legible) →
    (plan.change company).run later = (.done ⟨plan.kept found, 0⟩, later)

variable {company : Uuid} {found : List Workflow} {desk : Desk} {entries : List Entry}

theorem legible_of_dates {stamp : Bool → Instant} (dates : desk.Dates stamp)
    (clock : ∀ n, (desk.source.now n).Legible) (flag : Bool) : (stamp flag).Legible := by
  obtain ⟨n, -, same⟩ := dates flag
  exact same ▸ clock n

/-- A change of plan can be carried out wherever the workflows can be read and switched. -/
theorem settles_of_lists (lists : desk.Lists company entries found) (plan : Plan) :
    ∃ later, plan.Settles company found desk later := by
  obtain ⟨stamp, draws, dates, run⟩ := lists.run_change plan
  have changed := lists.flagsChanged_aligned (plan.on found) stamp draws
  have listed (clock : ∀ n, (desk.source.now n).Legible) :=
    lists.aligned (plan.on found) (legible_of_dates dates clock) draws
  refine ⟨desk.aligned company (plan.on found) stamp draws, ?_, changed,
    lists.enabledOf_aligned plan draws, ⟨stamp, draws, dates, rfl, ?_⟩, ?_⟩
  · rw [run, changed]
  · exact fun clock => (listed clock).run_listWorkflows
  · intro clock
    have right : ∀ w ∈ found.map (Workflow.aligned (plan.on found) stamp),
        w.misset (plan.on (found.map (Workflow.aligned (plan.on found) stamp))) = false := by
      rw [List.forall_mem_map, on_aligned]
      exact fun _ _ => Workflow.misset_aligned
    have still := (listed clock).run_change_of_right right
    rw [kept_aligned] at still
    exact still

/-- Whatever writes a store has behind it: as long as the workflows of a company can be
read, a change of plan keeps the first workflow that was created or all of them, switches
what has another flag and nothing else, and finds nothing to do when it is made again.  The
restricted plan does not depend on whether the unrestricted plan came before it. -/
theorem changes_settle {allowed : Instant → Prop} {desk : Desk}
    (reachable : desk.store.Reachable allowed) {company : Uuid} {found : List Workflow}
    (listed : ((Desk.listWorkflows company).run desk).1 = .done found)
    (writable : desk.outages.lookup .setWorkflowsEnabled = none) :
    desk.store.idsOf company = { id | id ∈ found.map Workflow.id } ∧
    (found.Pairwise fun a b => Older (a.createdAt, a.id) (b.createdAt, b.id)) ∧
    (∀ order : List Workflow, order.Perm found → Workflow.survivor order = found.head?) ∧
    ∃ restrictedDesk liftedDesk,
      restricted.Settles company found desk restrictedDesk ∧
      unrestricted.Settles company found desk liftedDesk ∧
      desk.store.flagsChanged liftedDesk.store = (found.countP fun w => !w.enabled) ∧
      ((∀ n, (desk.source.now n).Legible) → ∃ report last,
        (restricted.change company).run liftedDesk = (.done report, last) ∧
          report.kept = restricted.kept found ∧
            last.store.enabledOf company = restrictedDesk.store.enabledOf company) := by
  obtain ⟨entries, holds, -⟩ := reachable.sound.held
  obtain ⟨readable, answer⟩ := run_read_eq_done_iff.mp listed
  have lists : desk.Lists company entries found :=
    ⟨reachable.sound.intact, holds, readable, writable, answer⟩
  refine ⟨lists.idsOf_eq, lists.sorted, ?_, ?_⟩
  · intro order same
    rw [Workflow.survivor_perm lists.distinct same.symm, lists.survivor_eq]
  · obtain ⟨restrictedDesk, settled⟩ := settles_of_lists lists restricted
    obtain ⟨liftedDesk, lifted⟩ := settles_of_lists lists unrestricted
    refine ⟨restrictedDesk, liftedDesk, settled, lifted, ?_, ?_⟩
    · rw [lifted.changed]
      apply List.countP_congr
      intro w member
      have wanted : w.id ∈ unrestricted.on found := List.mem_map_of_mem member
      simp [Workflow.misset, wanted]
    · intro clock
      obtain ⟨stamp, draws, dates, rfl, -⟩ := lifted.written
      have later := lists.aligned (unrestricted.on found) (legible_of_dates dates clock) draws
      obtain ⟨last, again⟩ := settles_of_lists later restricted
      have sameKept : restricted.kept (found.map (Workflow.aligned (unrestricted.on found) stamp)) =
          restricted.kept found := kept_aligned
      refine ⟨_, last, again.run, sameKept, ?_⟩
      rw [again.enabled, settled.enabled, on_aligned]

/-- The start of the year 2026. -/
def twinTime : Instant :=
  Desk.newYear 2026 Desk.isDate_newYear2026

/-- One of several workflows of a company that were created at the same time. -/
def twin (id : Nat) (enabled : Bool) : Workflow where
  id := Uuid.ofNat id
  companyId := Uuid.ofNat 8
  title := "Twin"
  trigger := .webhook
  conditions := []
  action := .empty
  enabled
  createdAt := twinTime
  updatedAt := twinTime

/-- The entry of a twin. -/
def twinEntry (id : Nat) (enabled : Bool) : Entry :=
  ⟨fun i => Uuid.ofNat (10 * id + i), twin id enabled⟩

/-- A desk with two twins, of which the second is switched on. -/
def twinDesk : Desk :=
  { Desk.blank twinTime with store := Store.ofEntries [twinEntry 1 false, twinEntry 2 true] }

theorem legible_twinTime : twinTime.Legible := by
  decide

theorem workflowsOf_twinDesk :
    twinDesk.store.workflowsOf (Uuid.ofNat 8) = .ok [twin 1 false, twin 2 true] := by
  have holds : twinDesk.store.Holds [twinEntry 1 false, twinEntry 2 true] :=
    Store.holds_ofEntries (by decide) (by decide)
  have ordered : Store.oldestEntries [twinEntry 1 false, twinEntry 2 true] =
      [twinEntry 1 false, twinEntry 2 true] := by
    apply Store.oldestEntries_of_pairwise
    · intro e member
      rcases List.mem_pair.mp member with rfl | rfl <;> exact legible_twinTime
    · exact List.pairwise_pair.mpr (by decide)
  apply (holds.workflowsOf_eq_ok_iff rfl).mpr
  refine ⟨?_, by decide, ?_⟩
  · have legible : AllLegible [twinTime, twinTime] := by simp [legible_twinTime]
    intro e member _
    rw [List.mem_pair] at member
    rcases member with rfl | rfl <;> exact legible
  · show (Store.oldestEntries [twinEntry 1 false, twinEntry 2 true]).map _ = _
    rw [ordered]
    rfl

theorem reachable_twinDesk : twinDesk.store.Reachable Instant.Legible := by
  have dated (id : Nat) (enabled : Bool) : ∀ t ∈ (twin id enabled).instants, t.Legible := by
    show AllLegible [twinTime, twinTime]
    simp [legible_twinTime]
  have first : Store.empty.addWorkflow (twinEntry 1 false).rowId (twin 1 false) =
      .ok (Store.ofEntries [twinEntry 1 false]) := rfl
  have second : (Store.ofEntries [twinEntry 1 false]).addWorkflow (twinEntry 2 true).rowId
      (twin 2 true) = .ok twinDesk.store := rfl
  exact (Store.Reachable.empty.step (.addWorkflow first (dated 1 false))).step
    (.addWorkflow second (dated 2 true))

/-- The restricted plan switches the one twin on and the other off, once. -/
theorem changes_settle_twins :
    ∃ later, (Workflows.restrictPlan (Uuid.ofNat 8)).run twinDesk =
        (.done ⟨some (Uuid.ofNat 1), 2⟩, later) ∧
      later.store.enabledOf (Uuid.ofNat 8) = { id | id ∈ [Uuid.ofNat 1] } ∧
        (Workflows.restrictPlan (Uuid.ofNat 8)).run later =
          (.done ⟨some (Uuid.ofNat 1), 0⟩, later) := by
  have listed : ((Desk.listWorkflows (Uuid.ofNat 8)).run twinDesk).1 =
      .done [twin 1 false, twin 2 true] :=
    run_read_eq_done_iff.mpr ⟨rfl, workflowsOf_twinDesk⟩
  have clock : ∀ n, (twinDesk.source.now n).Legible := fun _ => legible_twinTime
  obtain ⟨-, -, -, later, -, settled, -⟩ := changes_settle reachable_twinDesk listed rfl
  refine ⟨later, ?_, settled.enabled, settled.again clock⟩
  have two : twinDesk.store.flagsChanged later.store = 2 := settled.changed
  have run := settled.run
  rw [two] at run
  exact run

end Plan

end Caretaker
