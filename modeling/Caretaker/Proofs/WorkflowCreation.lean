import Caretaker.Proofs.OwnWrites
import Caretaker.Proofs.PossibleConditions
import Caretaker.Proofs.WorkflowTables

/-!
# Creating a workflow

The conditions of a new workflow are looked at before anything is drawn or written.  If one
of them is impossible, the creation is refused as invalid, for the first such condition, and
the desk is as before.  No other creation of a workflow with a title is refused as invalid:
it ends with the workflow, and its rows are in the tables then, or with the error of the
storage, or it stalls, and the tables are as they were.
-/

namespace Caretaker

open Calendar Job Text

/-! ## The tables -/

namespace Store

/-- The store with the rows of a further workflow: that of its action, those of its
conditions, and its own. -/
def withWorkflow (s : Store) (fresh : Nat → Uuid) (w : Workflow) : Store :=
  { s with
    actions := s.actions ++ [.ofAction (fresh 0) w.action]
    conditions := s.conditions ++ conditionRows fresh w
    workflows := s.workflows ++ [.ofWorkflow (fresh 0) w] }

end Store

namespace Workflows

/-! ## One write -/

/-- What a draft becomes at a desk. -/
def drafted (desk : Desk) (company : Uuid) (draft : WorkflowDraft) : Workflow where
  id := desk.source.id (desk.source.drawn + 1)
  companyId := company
  title := trim draft.title
  trigger := draft.trigger
  conditions := draft.conditions.map Condition.normalized
  action := draft.action.getD .empty
  enabled := true
  createdAt := desk.source.now desk.source.drawn
  updatedAt := desk.source.now desk.source.drawn

/-- The identifiers that are drawn for the rows of a new workflow. -/
def rowIdAt (desk : Desk) (position : Nat) : Uuid :=
  desk.source.id (desk.source.drawn + 2 + position)

/-- The desk with the rows of a draft in its store. -/
def enriched (desk : Desk) (company : Uuid) (draft : WorkflowDraft) : Desk :=
  { desk with
    store := desk.store.withWorkflow (rowIdAt desk) (drafted desk company draft)
    source := { desk.source with
      drawn := desk.source.drawn + 2 + (draft.conditions.length + 1) } }

/-- The write of a creation is made: the rows of the draft can be added to the tables. -/
structure Stores (desk : Desk) (company : Uuid) (draft : WorkflowDraft) : Prop where
  working : desk.outages.lookup .createWorkflow = none
  added : ∃ store,
    desk.store.addWorkflow (rowIdAt desk) (drafted desk company draft) = .ok store

/-- Errors of the storage are not those of the draft. -/
theorem run_mapError_ofStore_ne (job : Job StoreError Workflow) (desk : Desk) (reason : String) :
    ((job.mapError WorkflowError.ofStore).run desk).1 ≠ .failed (.invalid reason) := by
  rw [run_mapError]
  rcases job.run desk with ⟨value | error | _, left⟩ <;> rintro ⟨⟩

/-- How the creation of a workflow with a title ends, and the desk that it leaves. -/
inductive Creation (desk : Desk) (company : Uuid) (draft : WorkflowDraft) :
    Outcome WorkflowError Workflow → Desk → Prop where
  | impossible {position : Nat} {error : Condition.RangeError}
      (first : FirstImpossible draft.conditions position error) :
      Creation desk company draft
        (.failed (.invalid ("condition " ++ ofNat position ++ ": " ++ error.message))) desk
  | unstored {outcome : Outcome WorkflowError Workflow} {left : Desk}
      (possible : ∀ c ∈ draft.conditions, c.Possible) (refused : ¬Stores desk company draft)
      (unfinished : isDone outcome = false)
      (blameless : ∀ reason, outcome ≠ .failed (.invalid reason))
      (kept : left.store = desk.store) : Creation desk company draft outcome left
  | stored (possible : ∀ c ∈ draft.conditions, c.Possible) (stores : Stores desk company draft) :
      Creation desk company draft (.done (drafted desk company draft))
        (enriched desk company draft)

section

variable {desk : Desk} {company : Uuid} {draft : WorkflowDraft}

/-- The desk after the clock was read and the identifier of the workflow was drawn. -/
def drawing (desk : Desk) : Desk :=
  { desk with source := { desk.source with drawn := desk.source.drawn + 2 } }

theorem run_createWorkflow_of_stores (stores : Stores desk company draft) :
    (Desk.createWorkflow (drafted desk company draft)).run (drawing desk) =
      (.done (drafted desk company draft), enriched desk company draft) := by
  obtain ⟨store, added⟩ := stores.added
  have same : store = desk.store.withWorkflow (rowIdAt desk) (drafted desk company draft) :=
    Store.eq_of_addWorkflow added
  have working : (drawing desk).outages.lookup .createWorkflow = none := stores.working
  have written : (drawing desk).store.addWorkflow
      (fun i => (drawing desk).source.id ((drawing desk).source.drawn + i))
      (drafted desk company draft) = .ok store := added
  rw [Desk.createWorkflow, run_through working, run_bind, run_freshIds]
  dsimp only
  rw [run_bind, run_write, written, same, enriched]
  simp [drafted, drawing]

theorem createWorkflow_breaksOff (refused : ¬Stores desk company draft) :
    ∃ left, left.store = desk.store ∧
      (Desk.createWorkflow (drafted desk company draft)).BreaksOff (drawing desk) left := by
  cases state : (drawing desk).outages.lookup .createWorkflow with
  | some outage =>
      refine ⟨drawing desk, rfl, ?_⟩
      constructor <;> cases outage <;> simp [Desk.createWorkflow, through, state, isDone]
  | none =>
      cases answer : (drawing desk).store.addWorkflow
          (fun i => (drawing desk).source.id ((drawing desk).source.drawn + i))
          (drafted desk company draft) with
      | ok store => exact absurd ⟨state, store, answer⟩ refused
      | error error =>
          -- By then the identifiers of the rows are drawn.
          have failed : (Desk.createWorkflow (drafted desk company draft)).run (drawing desk) =
              (.failed error, { desk with source := (enriched desk company draft).source }) := by
            rw [Desk.createWorkflow, run_through state, run_bind, run_freshIds]
            dsimp only
            rw [run_bind, run_write, answer]
            simp [drafted, drawing, enriched]
          refine ⟨{ desk with source := (enriched desk company draft).source }, rfl, ?_, ?_⟩
          · rw [failed, isDone]
          · rw [failed]

/-- Once the conditions are known to be possible, the storage decides. -/
theorem Creation.of_possible (possible : ∀ c ∈ draft.conditions, c.Possible) :
    let storing : Job WorkflowError Workflow :=
      (Desk.createWorkflow (drafted desk company draft)).mapError .ofStore
    Creation desk company draft (storing.run (drawing desk)).1 (storing.run (drawing desk)).2 := by
  intro storing
  by_cases stores : Stores desk company draft
  · have done : storing.run (drawing desk) =
        (.done (drafted desk company draft), enriched desk company draft) :=
      run_mapError_eq_done_iff.mpr (run_createWorkflow_of_stores stores)
    rw [done]
    exact .stored possible stores
  · obtain ⟨left, kept, breaks⟩ := createWorkflow_breaksOff stores
    have unfinished := breaks.mapError WorkflowError.ofStore
    rw [unfinished.leaves]
    exact .unstored possible stores unfinished.unfinished (run_mapError_ofStore_ne _ _) kept

end

/-- The creation of a workflow with a title ends in one of the ways above. -/
theorem create_ends (desk : Desk) (company : Uuid) {draft : WorkflowDraft}
    (titled : isBlank draft.title = false) :
    Creation desk company draft ((create company draft).run desk).1
      ((create company draft).run desk).2 := by
  have named : (trim draft.title).isEmpty = false := by
    rw [← Bool.not_eq_true, String.isEmpty_iff, ← isBlank_iff_trim_eq_empty, titled]
    exact Bool.false_ne_true
  unfold create
  dsimp only
  rw [named, if_neg Bool.false_ne_true, impossibleFrom_normalized]
  rcases impossibleFrom_cases 0 draft.conditions with
    ⟨nothing, possible⟩ | ⟨position, error, found, first⟩
  · rw [nothing]
    exact .of_possible possible
  · rw [found, Nat.zero_add]
    exact .impossible first

/-! ## The draft and its workflow -/

/-- The storage is in order, and nothing in its tables has an identifier that is drawn for
the workflow or its rows. -/
structure Takes (desk : Desk) (company : Uuid) (draft : WorkflowDraft) : Prop where
  working : desk.outages.lookup .createWorkflow = none
  intact : desk.store.Intact
  spare : desk.store.Spare (Entry.rowIds ⟨rowIdAt desk, drafted desk company draft⟩)
  isNew : ∀ row ∈ desk.store.workflows, row.id ≠ (drafted desk company draft).id.text

theorem Takes.stores {desk : Desk} {company : Uuid} {draft : WorkflowDraft}
    (takes : Takes desk company draft) : Stores desk company draft where
  working := takes.working
  added := by
    have isNew : (desk.store.workflows.any fun row =>
        row.id == (drafted desk company draft).id.text) = false := by
      simpa using takes.isNew
    have added := Store.addWorkflow_of_spare takes.intact takes.spare
    rw [isNew, if_neg Bool.false_ne_true] at added
    exact ⟨_, added⟩

/-- What was stored of a draft is found again. -/
theorem Stores.found {desk : Desk} {company : Uuid} {draft : WorkflowDraft}
    (stores : Stores desk company draft) {allowed : Instant → Prop}
    (reached : desk.store.Reachable allowed) (storable : (drafted desk company draft).Storable) :
    ∃ kept, (enriched desk company draft).store.findWorkflow (drafted desk company draft).id =
      .ok (some kept) ∧ (drafted desk company draft).KeptAs kept := by
  have sound := reached.sound
  obtain ⟨entries, holds, _⟩ := sound.held
  obtain ⟨store, added⟩ := stores.added
  have found := holds.findWorkflow_added sound.intact added storable.legible
  rw [Store.eq_of_addWorkflow added] at found
  exact ⟨_, found, Workflow.keptAs_stored storable⟩

/-- What a creation makes of a draft.  It is refused as invalid exactly for an impossible
condition; it names the first one then, and leaves everything alone.  If it ends well, the
workflow is the one of the draft and its rows are added to the tables, where it is found as
it was answered.  Otherwise the tables are left alone. -/
structure Judged (desk : Desk) (company : Uuid) (draft : WorkflowDraft)
    (outcome : Outcome WorkflowError Workflow) (left : Desk) : Prop where
  refused_iff : (∃ reason, outcome = .failed (.invalid reason)) ↔
    ∃ c ∈ draft.conditions, ∀ order : WorkOrder, c.holds (.workOrder order) = false
  refused : ∀ reason, outcome = .failed (.invalid reason) →
    (∃ position error, FirstImpossible draft.conditions position error ∧
      reason = "condition " ++ ofNat position ++ ": " ++ error.message) ∧ left = desk
  stored : ∀ w, outcome = .done w →
    w = drafted desk company draft ∧ left = enriched desk company draft
  unstored : isDone outcome = false → left.store = desk.store
  succeeds_iff : Takes desk company draft →
    (isDone outcome = true ↔ ∀ c ∈ draft.conditions, c.Possible)
  found : ∀ {allowed : Instant → Prop}, desk.store.Reachable allowed → ∀ w, outcome = .done w →
    w.Storable → ∃ kept, left.store.findWorkflow w.id = .ok (some kept) ∧ w.KeptAs kept

theorem exists_impossible_iff {conditions : List Condition} :
    (∃ c ∈ conditions, ∀ order : WorkOrder, c.holds (.workOrder order) = false) ↔
      ¬∀ c ∈ conditions, c.Possible := by
  simp [Condition.Possible]

theorem Creation.judged {desk left : Desk} {company : Uuid} {draft : WorkflowDraft}
    {outcome : Outcome WorkflowError Workflow} (creation : Creation desk company draft outcome left) :
    Judged desk company draft outcome left := by
  cases creation with
  | impossible first =>
      obtain ⟨c, member, impossible⟩ := first.exists_mem
      have some_impossible : ¬∀ c ∈ draft.conditions, c.Possible :=
        fun possible => impossible (possible c member)
      exact {
        refused_iff := iff_of_true ⟨_, rfl⟩ (exists_impossible_iff.mpr some_impossible)
        refused := by rintro _ ⟨⟩; exact ⟨⟨_, _, first, rfl⟩, rfl⟩
        stored := by rintro _ ⟨⟩
        unstored := fun _ => rfl
        succeeds_iff := fun _ => iff_of_false Bool.false_ne_true some_impossible
        found := by rintro _ _ _ ⟨⟩ }
  | unstored possible refused unfinished blameless kept =>
      have not_done : ∀ w, outcome ≠ .done w := by
        rintro w rfl
        cases unfinished
      exact {
        refused_iff := iff_of_false (fun ⟨reason, same⟩ => blameless reason same)
          fun impossible => exists_impossible_iff.mp impossible possible
        refused := fun reason same => absurd same (blameless reason)
        stored := fun w same => absurd same (not_done w)
        unstored := fun _ => kept
        succeeds_iff := fun takes => absurd takes.stores refused
        found := fun _ w same => absurd same (not_done w) }
  | stored possible stores =>
      exact {
        refused_iff := iff_of_false (by rintro ⟨_, ⟨⟩⟩)
          fun impossible => exists_impossible_iff.mp impossible possible
        refused := by rintro _ ⟨⟩
        stored := by rintro _ ⟨⟩; exact ⟨rfl, rfl⟩
        unstored := by rintro ⟨⟩
        succeeds_iff := fun _ => iff_of_true rfl possible
        found := by rintro _ reached _ ⟨⟩ storable; exact stores.found reached storable }

/-- The look at the ranges of a condition decides whether a work order, or a request, can
meet it; and whatever the desk is like, the creation of a workflow with a title goes by
that. -/
theorem create_refuses_impossible :
    (∀ c : Condition,
      (c.checkRanges = .ok () ↔ ∃ order : WorkOrder, c.holds (.workOrder order) = true) ∧
        (c.checkRanges = .ok () ↔ ∃ request : Request, c.holds (.request request) = true)) ∧
      ∀ (desk : Desk) (company : Uuid) (draft : WorkflowDraft), isBlank draft.title = false →
        Judged desk company draft ((create company draft).run desk).1
          ((create company draft).run desk).2 := by
  constructor
  · intro c
    exact ⟨Condition.checkRanges_eq_ok_iff_possible, Condition.checkRanges_eq_ok_iff_request⟩
  · intro desk company draft titled
    exact (create_ends desk company titled).judged

/-- A draft whose second condition wants a due date after the start of 2027 and before that
of 2026. -/
def hopeless : WorkflowDraft where
  title := " Late "
  trigger := .workOrder
  conditions := [Condition.empty, { Condition.empty with
    startDate := some (Desk.newYear 2027 isDate_newYear2027)
    endDate := some (Desk.newYear 2026 Desk.isDate_newYear2026) }]
  action := none

/-- A draft that wants the very first instant of 2026 as the creation time. -/
def punctual : WorkflowDraft where
  title := " Early "
  trigger := .workOrder
  conditions := [{ Condition.empty with
    label := some " "
    createdTimeStart := some (Desk.newYear 2026 Desk.isDate_newYear2026)
    createdTimeEnd := some (Desk.newYear 2026 Desk.isDate_newYear2026) }]
  action := none

/-- What a creation is refused as invalid for. -/
def reproach? : Outcome WorkflowError Workflow → Option String
  | .failed (.invalid reason) => some reason
  | _ => none

/-- A desk of the year 2026 with nothing in its store. -/
def opening : Desk :=
  Desk.blank (Desk.newYear 2026 Desk.isDate_newYear2026)

theorem not_possible_hopeless : ¬∀ c ∈ hopeless.conditions, c.Possible := by
  have reversed : ¬∀ c ∈ hopeless.conditions, c.checkRanges = .ok () := by decide +kernel
  intro possible
  exact reversed fun c member => Condition.checkRanges_eq_ok_iff_possible.mpr (possible c member)

theorem possible_punctual : ∀ c ∈ punctual.conditions, c.Possible := by
  have ordered : ∀ c ∈ punctual.conditions, c.checkRanges = .ok () := by decide +kernel
  exact fun c member => Condition.checkRanges_eq_ok_iff_possible.mp (ordered c member)

theorem takes_opening : Takes opening (Uuid.ofNat 7) punctual where
  working := rfl
  intact := rfl
  spare := ⟨by decide +kernel, by rintro _ ⟨⟩, by rintro _ ⟨⟩⟩
  isNew := by rintro _ ⟨⟩

theorem storable_punctual : (drafted opening (Uuid.ofNat 7) punctual).Storable where
  legible := by
    have legible : (Desk.newYear 2026 Desk.isDate_newYear2026).Legible := by decide
    rintro t (_ | ⟨_, _ | ⟨_, _ | ⟨_, _ | ⟨_, ⟨⟩⟩⟩⟩⟩) <;> exact legible
  numeric := by rintro _ ⟨⟩

/-- At a desk with nothing in its store the first draft is refused for its second condition,
and the second draft becomes a workflow that is found under its trimmed title. -/
theorem create_refuses_impossible_hopeless :
    (create (Uuid.ofNat 7) hopeless).run opening =
        (.failed (.invalid "condition 1: startDate is after endDate"), opening) ∧
      ∃ w left kept, (create (Uuid.ofNat 7) punctual).run opening = (.done w, left) ∧
        left.store.findWorkflow w.id = .ok (some kept) ∧ kept.title = "Early" ∧
          w.conditions.map Condition.label = [none] := by
  constructor
  · have judged := create_refuses_impossible.2 opening (Uuid.ofNat 7) hopeless (by decide)
    have told : reproach? ((create (Uuid.ofNat 7) hopeless).run opening).1 =
        some "condition 1: startDate is after endDate" := by
      decide +kernel
    obtain ⟨reason, ended⟩ :=
      judged.refused_iff.mpr (exists_impossible_iff.mpr not_possible_hopeless)
    obtain ⟨_, unchanged⟩ := judged.refused reason ended
    rw [ended] at told
    obtain rfl : reason = "condition 1: startDate is after endDate" := Option.some.inj told
    exact Prod.ext ended unchanged
  · have judged := create_refuses_impossible.2 opening (Uuid.ofNat 7) punctual (by decide)
    obtain ⟨w, done⟩ := succeeds_iff_isDone.mpr
      ((judged.succeeds_iff takes_opening).mpr possible_punctual)
    obtain ⟨rfl, _⟩ := judged.stored w done
    have reached : opening.store.Reachable Instant.Legible := .empty
    obtain ⟨kept, found, same⟩ := judged.found reached _ done storable_punctual
    have trimmed : (drafted opening (Uuid.ofNat 7) punctual).title = "Early" := by decide
    have title : kept.title = "Early" := by
      rw [same.rest]
      exact trimmed
    exact ⟨_, _, kept, Prod.ext done rfl, found, title, by decide⟩

end Workflows

end Caretaker
