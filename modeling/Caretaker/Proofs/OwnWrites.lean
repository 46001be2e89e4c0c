import Caretaker.Proofs.Operations
import Caretaker.Proofs.Store.Assembly
import Caretaker.Proofs.Store.Kept

/-!
# Reading one's own writes

Whoever has created a workflow, or switched one on or off, is answered a workflow, and
finds one right afterwards under its identifier.  After a creation the two are the same.
After switching they are the same but for the time of the last change: the store has the
time that was read from the clock while the row was written, whereas the answer still has
the one that the row had before.
-/

namespace Caretaker

open Calendar Job

/-! ## In the store -/

namespace Store

variable {s s' : Store} {entries : List Entry}

theorem intact_addWorkflow (intact : s.Intact) {fresh : Nat → Uuid} {w : Workflow}
    (added : s.addWorkflow fresh w = .ok s') : s'.Intact := by
  obtain ⟨_, _, _, rfl⟩ := (addWorkflow_eq_ok_iff intact).mp added
  exact intact

theorem intact_setEnabled (intact : s.Intact) {ids : List Uuid} {enabled : Bool} {now : Instant}
    (switched : s.setEnabled ids enabled now = .ok s') : s'.Intact := by
  rw [setEnabled_eq intact, Except.ok.injEq] at switched
  subst switched
  exact intact

/-- The workflow that was added last is found by its identifier. -/
theorem Holds.findWorkflow_added (holds : s.Holds entries) (intact : s.Intact)
    {fresh : Nat → Uuid} {w : Workflow} (added : s.addWorkflow fresh w = .ok s')
    (legible : AllLegible w.instants) : s'.findWorkflow w.id = .ok (some w.stored) := by
  have holds' := holds.addWorkflow intact added
  have member : (⟨fresh, w⟩ : Entry) ∈ entries ++ [⟨fresh, w⟩] :=
    List.mem_append_right _ List.mem_cons_self
  apply (holds'.findWorkflow_eq_ok_iff (intact_addWorkflow intact added)).mpr
  constructor
  · intro e listed named
    rw [holds'.eq_of_id listed member named]
    exact legible
  · rw [holds'.find?_of_mem member, Option.map_some]

/-- Switching changes the flag and the time of change in what is found, and nothing else. -/
theorem Holds.findWorkflow_switched (holds : s.Holds entries) (intact : s.Intact) {id : Uuid}
    {w : Workflow} (found : s.findWorkflow id = .ok (some w)) {enabled : Bool} {now : Instant}
    (switched : s.setEnabled [id] enabled now = .ok s') (legible : now.Legible) :
    s'.findWorkflow id = .ok (some { w with enabled, updatedAt := now }) := by
  obtain ⟨readable, located⟩ := (holds.findWorkflow_eq_ok_iff intact).mp found
  have holds' := holds.setEnabled intact switched
  have named : (fun e : Entry => decide (e.workflow.id = id)) ∘ Entry.switch [id] enabled now =
      fun e => decide (e.workflow.id = id) := by
    funext e
    rw [Function.comp_apply, Entry.id_switch]
  apply (holds'.findWorkflow_eq_ok_iff (intact_setEnabled intact switched)).mpr
  constructor
  · rw [List.forall_mem_map]
    intro e member own
    rw [Entry.id_switch] at own
    exact dated_switch (readable e member own) legible [id] enabled
  · rw [List.find?_map, named, Option.map_map]
    obtain ⟨e, first, rfl⟩ := Option.map_eq_some_iff.mp located
    have own : e.workflow.id = id := by simpa using List.find?_some first
    rw [first, Option.map_some, Function.comp_apply, Entry.switch, if_pos (by simp [own])]
    rfl

theorem Holds.id_of_findWorkflow (holds : s.Holds entries) (intact : s.Intact) {id : Uuid}
    {w : Workflow} (found : s.findWorkflow id = .ok (some w)) : w.id = id := by
  obtain ⟨_, located⟩ := (holds.findWorkflow_eq_ok_iff intact).mp found
  obtain ⟨e, first, rfl⟩ := Option.map_eq_some_iff.mp located
  have named : e.workflow.id = id := by simpa using List.find?_some first
  exact named

end Store

/-! ## At the desk -/

/-- The numbers of a draft. -/
def WorkflowDraft.numbers (draft : WorkflowDraft) : List Float :=
  (draft.action.getD .empty).numberValue.toList ++
    draft.conditions.flatMap fun c => c.numberValue.toList

namespace Workflows

variable {desk left : Desk} {company id : Uuid} {w : Workflow}

theorem run_get_eq_done_iff :
    (get company id).run desk = (.done w, left) ↔
      desk.outages.lookup .findWorkflow = none ∧ desk.store.findWorkflow id = .ok (some w) ∧
        w.companyId = company ∧ desk = left := by
  simp only [get, run_bind_eq_done_iff, run_mapError_eq_done_iff, Desk.findWorkflow,
    run_through_eq_done_iff, run_read_eq_iff, run_orFail_eq_done_iff, Option.filter_eq_some_iff,
    decide_eq_true_eq]
  constructor
  · rintro ⟨_, _, ⟨working, found, rfl⟩, ⟨rfl, own⟩, rfl⟩
    exact ⟨working, found, own, rfl⟩
  · rintro ⟨working, found, own, rfl⟩
    exact ⟨_, _, ⟨working, found, rfl⟩, ⟨rfl, own⟩, rfl⟩

/-- What is stored by a creation is what it answers; its instants are the reading of the
clock and those of the draft. -/
theorem run_create_of_done {draft : WorkflowDraft}
    (done : (create company draft).run desk = (.done w, left)) :
    ∃ fresh, desk.store.addWorkflow fresh w = .ok left.store ∧ left.outages = desk.outages ∧
      w.companyId = company ∧ w.numbers = draft.numbers ∧
      w.instants = desk.source.now desk.source.drawn :: desk.source.now desk.source.drawn ::
        draft.instants := by
  unfold create at done
  dsimp only at done
  split at done
  · cases done
  · split at done
    · cases done
    · obtain ⟨_, _, ⟨⟩, done⟩ := run_bind_eq_done_iff.mp done
      obtain ⟨_, _, ⟨⟩, done⟩ := run_bind_eq_done_iff.mp done
      obtain ⟨_, done⟩ := run_through_eq_done_iff.mp (run_mapError_eq_done_iff.mp done)
      obtain ⟨fresh, _, ⟨⟩, done⟩ := run_bind_eq_done_iff.mp done
      obtain ⟨_, _, stored, ⟨⟩⟩ := run_bind_eq_done_iff.mp done
      obtain ⟨store, added, rfl⟩ := run_write_eq_done_iff.mp stored
      refine ⟨_, added, rfl, rfl, ?_, ?_⟩
      · simp [Workflow.numbers, WorkflowDraft.numbers, List.flatMap_map, Condition.normalized]
      · simp [Workflow.instants, Workflow.ownInstants, WorkflowDraft.instants, List.flatMap_map,
          Condition.instants_normalized]

/-- A workflow that was created is found as it was answered. -/
theorem get_after_create (reached : desk.store.Reachable Instant.Legible)
    (working : desk.outages.lookup .findWorkflow = none)
    (clock : (desk.source.now desk.source.drawn).Legible) {draft : WorkflowDraft}
    (bounded : AllLegible draft.instants) (numeric : ∀ x ∈ draft.numbers, x.isNaN = false)
    (done : (create company draft).run desk = (.done w, left)) :
    (get company w.id).run left = (.done w.stored, left) ∧ w.KeptAs w.stored := by
  have sound := reached.sound
  obtain ⟨entries, holds, _⟩ := sound.held
  obtain ⟨fresh, added, outages, own, numbers, instants⟩ := run_create_of_done done
  have legible : AllLegible w.instants := by
    rw [instants, allLegible_cons, allLegible_cons]
    exact ⟨clock, clock, bounded⟩
  have found := holds.findWorkflow_added sound.intact added legible
  constructor
  · exact run_get_eq_done_iff.mpr ⟨outages ▸ working, found, own, rfl⟩
  · exact Workflow.keptAs_stored ⟨legible, numbers ▸ numeric⟩

/-- A workflow that was switched is found as it was answered, but with the time at which it
was switched. -/
theorem get_after_setEnabled (reached : desk.store.Reachable Instant.Legible)
    (clock : (desk.source.now desk.source.drawn).Legible) {enabled : Bool}
    (done : (setEnabled company id enabled).run desk = (.done w, left)) :
    (get company id).run left =
      (.done { w with updatedAt := desk.source.now desk.source.drawn }, left) := by
  have sound := reached.sound
  obtain ⟨entries, holds, _⟩ := sound.held
  obtain ⟨old, _, looked, done⟩ := run_bind_eq_done_iff.mp done
  obtain ⟨working, found, own, rfl⟩ := run_get_eq_done_iff.mp looked
  obtain ⟨_, _, switched, ⟨⟩⟩ := run_bind_eq_done_iff.mp done
  obtain ⟨_, switched⟩ := run_through_eq_done_iff.mp (run_mapError_eq_done_iff.mp switched)
  obtain ⟨_, _, ⟨⟩, switched⟩ := run_bind_eq_done_iff.mp switched
  obtain ⟨store, answer, rfl⟩ := run_write_eq_done_iff.mp switched
  rw [holds.id_of_findWorkflow sound.intact found] at answer
  have refound := holds.findWorkflow_switched sound.intact found answer clock
  exact run_get_eq_done_iff.mpr ⟨working, refound, own, rfl⟩

/-- What an administrator is answered and what the same administrator finds right afterwards.
A workflow that was created is found as it was answered.  One that was switched is found so
as well, except that the answer has the time of the change before. -/
structure ReadsBack (desk : Desk) : Prop where
  created : ∀ {company : Uuid} {draft : WorkflowDraft} {w : Workflow} {left : Desk},
    AllLegible draft.instants → (∀ x ∈ draft.numbers, x.isNaN = false) →
    (create company draft).run desk = (.done w, left) →
    (get company w.id).run left = (.done w.stored, left) ∧ w.KeptAs w.stored
  switched : ∀ {company id : Uuid} {enabled : Bool} {w : Workflow} {left : Desk},
    (setEnabled company id enabled).run desk = (.done w, left) →
    (get company id).run left =
      (.done { w with updatedAt := desk.source.now desk.source.drawn }, left)
  same_iff : ∀ {company id : Uuid} {enabled : Bool} {w : Workflow} {left : Desk},
    (setEnabled company id enabled).run desk = (.done w, left) →
    ((get company id).run left = (.done w, left) ↔
      w.updatedAt = desk.source.now desk.source.drawn)

/-- At a desk whose store was only ever written to with legible instants, and whose clock
shows one, administrators find what they are answered, but for the time of a switch. -/
theorem readsBack_of_reachable (reached : desk.store.Reachable Instant.Legible)
    (working : desk.outages.lookup .findWorkflow = none)
    (clock : (desk.source.now desk.source.drawn).Legible) : ReadsBack desk where
  created bounded numeric done := get_after_create reached working clock bounded numeric done
  switched done := get_after_setEnabled reached clock done
  same_iff {company id enabled w left} done := by
    rw [get_after_setEnabled reached clock done]
    constructor
    · intro same
      injection same with same
      injection same with same
      rw [← same]
    · intro current
      rw [← current]

/-- A desk of the year 2026 with one workflow of one company. -/
def workshop : Desk :=
  (Desk.blank (Desk.newYear 2026 Desk.isDate_newYear2026)).serve
    [.createWorkflow (Uuid.ofNat 7)
      { title := "All work", trigger := .workOrder, conditions := [], action := none }]

theorem reachable_workshop : workshop.store.Reachable Instant.Legible := by
  have legible : (Desk.newYear 2026 Desk.isDate_newYear2026).Legible := by decide
  have opened := @Desk.orderly_of_empty Instant.Legible (Desk.blank _) rfl rfl fun _ => legible
  exact (opened.serve (by simp [Operation.instants, WorkflowDraft.instants])).reachable

/-- Switching the workflow off ends well, and is found when the workflow is read again. -/
theorem readsBack_workshop :
    ReadsBack workshop ∧ (setEnabled (Uuid.ofNat 7) (Uuid.ofNat 1) false).Succeeds workshop := by
  constructor
  · exact readsBack_of_reachable reachable_workshop rfl (by decide)
  · rw [succeeds_iff_isDone]
    decide +kernel

theorem isDate_newYear2027 : IsDate 2027 1 1 := by
  decide

/-- The desk a year later. -/
def workshopNextYear : Desk :=
  { workshop with
    source := { workshop.source with now := fun _ => Desk.newYear 2027 isDate_newYear2027 } }

/-- The time of the last change in an answer. -/
def changeTime? {ε : Type} : Outcome ε Workflow → Option Instant
  | .done w => some w.updatedAt
  | .failed _ | .stalled => none

/-- A workflow that is switched off in 2027 is answered as last changed in 2026, when it was
created, and found as changed in 2027. -/
theorem setEnabled_answers_former_time :
    workshopNextYear.store.Reachable Instant.Legible ∧
      ∃ w found left,
        (setEnabled (Uuid.ofNat 7) (Uuid.ofNat 1) false).run workshopNextYear = (.done w, left) ∧
          (get (Uuid.ofNat 7) (Uuid.ofNat 1)).run left = (.done found, left) ∧ w ≠ found := by
  have succeeds : (setEnabled (Uuid.ofNat 7) (Uuid.ofNat 1) false).Succeeds workshopNextYear := by
    rw [succeeds_iff_isDone]
    decide +kernel
  have former : changeTime? ((setEnabled (Uuid.ofNat 7) (Uuid.ofNat 1) false).run
      workshopNextYear).1 = some (Desk.newYear 2026 Desk.isDate_newYear2026) := by
    decide +kernel
  obtain ⟨w, ended⟩ := succeeds
  rw [ended] at former
  have changed : w.updatedAt = Desk.newYear 2026 Desk.isDate_newYear2026 := Option.some.inj former
  have reached : workshopNextYear.store.Reachable Instant.Legible := reachable_workshop
  have clock : (Desk.newYear 2027 isDate_newYear2027).Legible := by decide
  have found := @get_after_setEnabled workshopNextYear _ _ _ w reached clock false
    (Prod.ext ended rfl)
  refine ⟨reached, w, _, _, Prod.ext ended rfl, found, fun same => ?_⟩
  have sameTime : Desk.newYear 2026 Desk.isDate_newYear2026 =
      Desk.newYear 2027 isDate_newYear2027 :=
    changed.symm.trans (congrArg Workflow.updatedAt same)
  revert sameTime
  decide

end Workflows

end Caretaker
