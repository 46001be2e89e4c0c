import Caretaker.Proofs.Desk.Maintaining
import Caretaker.Proofs.Operations
import Caretaker.Proofs.Store.Share
import Caretaker.Proofs.Survivor

/-!
# Administration stays with its company

Whoever administers the workflows of a company names workflows by their identifiers, and
the store finds, switches and removes by identifier whatever company a workflow belongs
to.  Yet no call reaches a workflow of another company.

What carries this over a call is that the store holds the same entries of other companies
as before, and that an identifier is only written under after a workflow of the company
was read with it.  An identifier names one entry, so it names none of another company.
-/

namespace Caretaker

open Calendar Job

/-! ## The entries of other companies -/

namespace Store

/-- The entries of all companies but one. -/
def foreignEntries (company : Uuid) (entries : List Entry) : List Entry :=
  entries.filter fun e => e.workflow.companyId ≠ company

/-- The identifiers name none of the entries. -/
def Apart (ids : List Uuid) (entries : List Entry) : Prop :=
  ∀ e ∈ entries, e.workflow.id ∉ ids

theorem Apart.subset {ids ids' : List Uuid} {entries : List Entry} (apart : Apart ids entries)
    (within : ∀ i ∈ ids', i ∈ ids) : Apart ids' entries :=
  fun e member listed => apart e member (within _ listed)

/-- Besides the workflows of a company, the store holds exactly these entries. -/
structure Surrounds (s : Store) (others : List Entry) (company : Uuid) : Prop where
  intact : s.Intact
  held : ∃ entries, s.Holds entries ∧ foreignEntries company entries = others

variable {s s' : Store} {entries others : List Entry} {company id : Uuid} {ids : List Uuid}

theorem foreignEntries_concat {e : Entry} (own : e.workflow.companyId = company) :
    foreignEntries company (entries ++ [e]) = foreignEntries company entries := by
  simp [foreignEntries, own]

theorem foreignEntries_switch (apart : Apart ids (foreignEntries company entries)) (enabled : Bool)
    (now : Instant) :
    foreignEntries company (entries.map (Entry.switch ids enabled now)) =
      foreignEntries company entries := by
  have sameOwner : (fun e : Entry => decide (e.workflow.companyId ≠ company)) ∘
      Entry.switch ids enabled now = fun e => decide (e.workflow.companyId ≠ company) := by
    funext e
    rw [Function.comp_apply, Entry.companyId_switch]
  rw [foreignEntries, List.filter_map, sameOwner, ← foreignEntries]
  have untouched : ∀ e ∈ foreignEntries company entries, e.switch ids enabled now = id e :=
    fun e member => Entry.switch_of_not_mem (apart e member) enabled now
  rw [List.map_congr_left untouched, List.map_id]

theorem foreignEntries_without (apart : Apart [id] (foreignEntries company entries)) :
    foreignEntries company (without id entries) = foreignEntries company entries := by
  rw [foreignEntries, without, List.filter_comm, ← foreignEntries]
  apply List.filter_eq_self.mpr
  intro e member
  exact decide_eq_true fun same => apart e member (List.mem_singleton.mpr same)

/-- Identifiers of the company's workflows name none of another company. -/
theorem Holds.apart (holds : s.Holds entries)
    (named : ∀ i ∈ ids, ∃ e ∈ entries, e.workflow.id = i ∧ e.workflow.companyId = company) :
    Apart ids (foreignEntries company entries) := by
  intro other memberOther listed
  obtain ⟨memberEntry, foreign⟩ := List.mem_filter.mp memberOther
  obtain ⟨e, member, same, own⟩ := named _ listed
  rw [← holds.eq_of_id member memberEntry same] at foreign
  exact of_decide_eq_true foreign own

namespace Surrounds

theorem apart_of_findWorkflow (surrounds : s.Surrounds others company) {w : Workflow}
    (answer : s.findWorkflow id = .ok (some w)) (own : w.companyId = company) :
    w.id = id ∧ Apart [id] others := by
  obtain ⟨intact, entries, holds, rfl⟩ := surrounds
  obtain ⟨-, found⟩ := (holds.findWorkflow_eq_ok_iff intact).mp answer
  obtain ⟨e, located, rfl⟩ := Option.map_eq_some_iff.mp found
  have named : e.workflow.id = id := by simpa using List.find?_some located
  constructor
  · exact named
  · apply holds.apart
    intro i listed
    rw [List.mem_singleton.mp listed]
    exact ⟨e, List.mem_of_find?_eq_some located, named, own⟩

theorem apart_of_workflowsOf (surrounds : s.Surrounds others company) {found : List Workflow}
    (answer : s.workflowsOf company = .ok found) : Apart (found.map Workflow.id) others := by
  obtain ⟨intact, entries, holds, rfl⟩ := surrounds
  obtain ⟨-, -, rfl⟩ := (holds.workflowsOf_eq_ok_iff intact).mp answer
  apply holds.apart
  intro i listed
  rw [List.map_map] at listed
  obtain ⟨e, memberE, rfl⟩ := List.mem_map.mp listed
  obtain ⟨member, own⟩ := List.mem_filter.mp (mem_oldestEntries.mp memberE)
  exact ⟨e, member, rfl, of_decide_eq_true own⟩

/-! ### Writing -/

theorem addWorkflow (surrounds : s.Surrounds others company) {fresh : Nat → Uuid} {w : Workflow}
    (own : w.companyId = company) (added : s.addWorkflow fresh w = .ok s') :
    s'.Surrounds others company := by
  obtain ⟨intact, entries, holds, rfl⟩ := surrounds
  have held := holds.addWorkflow intact added
  obtain ⟨-, -, -, rfl⟩ := (addWorkflow_eq_ok_iff intact).mp added
  exact ⟨intact, _, held, foreignEntries_concat own⟩

theorem setEnabled (surrounds : s.Surrounds others company) (apart : Apart ids others)
    {enabled : Bool} {now : Instant} (switched : s.setEnabled ids enabled now = .ok s') :
    s'.Surrounds others company := by
  obtain ⟨intact, entries, holds, rfl⟩ := surrounds
  have held := holds.setEnabled intact switched
  rw [setEnabled_eq intact, Except.ok.injEq] at switched
  subst switched
  exact ⟨intact, _, held, foreignEntries_switch apart enabled now⟩

theorem removeWorkflow (surrounds : s.Surrounds others company) (apart : Apart [id] others)
    {found : Bool} (removed : s.removeWorkflow id = .ok (found, s')) :
    s'.Surrounds others company := by
  obtain ⟨intact, entries, holds, rfl⟩ := surrounds
  have held := holds.removeWorkflow intact removed
  rw [holds.removeWorkflow_eq intact, Except.ok.injEq, Prod.mk.injEq] at removed
  obtain ⟨-, rfl⟩ := removed
  exact ⟨intact, _, held, foreignEntries_without apart⟩

/-- Whoever holds the same entries of other companies lists the same for each of them. -/
theorem workflowsOf_eq (surrounds : s.Surrounds others company)
    (surrounds' : s'.Surrounds others company) {other : Uuid} (foreign : other ≠ company) :
    s'.workflowsOf other = s.workflowsOf other := by
  obtain ⟨intact, entries, holds, rfl⟩ := surrounds
  obtain ⟨intact', entries', holds', same⟩ := surrounds'
  have theirs (kept : List Entry) :
      (kept.filter fun e => e.workflow.companyId.text == other.text) =
        (foreignEntries company kept).filter fun e => e.workflow.companyId.text == other.text := by
    rw [foreignEntries, List.filter_filter]
    apply List.filter_congr
    intro e _
    by_cases owned : e.workflow.companyId = other <;> simp [owned, foreign]
  apply workflowsOf_congr holds' holds intact' intact
  rw [holds.share_eq, holds'.share_eq, theirs entries, theirs entries', same]

end Surrounds

end Store

/-! ## Jobs -/

namespace Desk

/-- Besides the workflows of a company, the store of the desk holds exactly these entries,
and these channels are out of order. -/
structure Surrounds (others : List Entry) (outages : List (Channel × Outage)) (company : Uuid)
    (desk : Desk) : Prop where
  store : desk.store.Surrounds others company
  outages : desk.outages = outages

variable {others : List Entry} {outages : List (Channel × Outage)} {company : Uuid}

theorem createWorkflow_maintains {w : Workflow} (own : w.companyId = company) :
    Maintains (Surrounds others outages company) (createWorkflow w) fun _ => True := by
  apply Maintains.through
  apply Maintains.bind (Maintains.of_left fun _ surrounds => ⟨surrounds.store, surrounds.outages⟩)
  intro fresh _
  apply Maintains.bind
  · exact Maintains.write fun _ _ surrounds added =>
      ⟨surrounds.store.addWorkflow own added, surrounds.outages⟩
  · exact fun _ _ => Maintains.pure trivial

theorem findWorkflow_maintains (id : Uuid) :
    Maintains (Surrounds others outages company) (findWorkflow id) fun found =>
      ∀ w, found = some w → w.companyId = company → w.id = id ∧ Store.Apart [id] others := by
  apply Maintains.through
  apply Maintains.read
  rintro desk _ surrounds answer w rfl own
  exact surrounds.store.apart_of_findWorkflow answer own

theorem listWorkflows_maintains :
    Maintains (Surrounds others outages company) (listWorkflows company) fun found =>
      Store.Apart (found.map Workflow.id) others :=
  Maintains.through (Maintains.read fun _ _ surrounds answer =>
    surrounds.store.apart_of_workflowsOf answer)

theorem setWorkflowsEnabled_maintains {ids : List Uuid} (apart : Store.Apart ids others)
    (enabled : Bool) :
    Maintains (Surrounds others outages company) (setWorkflowsEnabled ids enabled)
      fun _ => True := by
  apply Maintains.through
  apply Maintains.bind (Maintains.of_left fun _ surrounds => ⟨surrounds.store, surrounds.outages⟩)
  intro time _
  exact Maintains.write fun _ _ surrounds switched =>
    ⟨surrounds.store.setEnabled apart switched, surrounds.outages⟩

theorem deleteWorkflow_maintains {id : Uuid} (apart : Store.Apart [id] others) :
    Maintains (Surrounds others outages company) (deleteWorkflow id) fun _ => True :=
  Maintains.through (Maintains.change fun _ _ _ surrounds removed =>
    ⟨surrounds.store.removeWorkflow apart removed, surrounds.outages⟩)

end Desk

namespace Workflows

open Desk

variable {others : List Entry} {outages : List (Channel × Outage)}

theorem create_maintains (company : Uuid) (draft : WorkflowDraft) :
    Maintains (Surrounds others outages company) (create company draft) fun _ => True := by
  unfold create
  dsimp only
  split
  · exact Maintains.fail _
  · split
    · exact Maintains.fail _
    · apply Maintains.bind (Maintains.of_left fun _ surrounds =>
        ⟨surrounds.store, surrounds.outages⟩)
      intro createdAt _
      apply Maintains.bind (Maintains.of_left fun _ surrounds =>
        ⟨surrounds.store, surrounds.outages⟩)
      intro id _
      apply Maintains.mapError
      exact createWorkflow_maintains rfl

theorem list_maintains (company : Uuid) :
    Maintains (Surrounds others outages company) (list company) fun _ => True :=
  Maintains.mapError _ (Maintains.of_left fun desk surrounds =>
    (listWorkflows_maintains desk surrounds).1)

/-- Whoever is given a workflow knows that its identifier names none of another company. -/
theorem get_maintains (company id : Uuid) :
    Maintains (Surrounds others outages company) (get company id) fun w =>
      w.id = id ∧ Store.Apart [id] others := by
  apply Maintains.bind (Maintains.mapError _ (findWorkflow_maintains id))
  intro found known
  apply Maintains.orFail
  intro w kept
  obtain ⟨isFound, own⟩ := Option.filter_eq_some_iff.mp kept
  exact known w isFound (of_decide_eq_true own)

theorem delete_maintains (company id : Uuid) :
    Maintains (Surrounds others outages company) (delete company id) fun _ => True := by
  apply Maintains.bind (get_maintains company id)
  rintro w ⟨-, apart⟩
  apply Maintains.bind (Maintains.mapError _ (deleteWorkflow_maintains apart))
  intro found _
  split
  · exact Maintains.pure trivial
  · exact Maintains.fail _

theorem setEnabled_maintains (company id : Uuid) (enabled : Bool) :
    Maintains (Surrounds others outages company) (setEnabled company id enabled) fun _ => True := by
  apply Maintains.bind (get_maintains company id)
  rintro w ⟨rfl, apart⟩
  apply Maintains.bind (Maintains.mapError _ (setWorkflowsEnabled_maintains apart enabled))
  exact fun _ _ => Maintains.pure trivial

theorem disableExtra_maintains (company : Uuid) :
    Maintains (Surrounds others outages company) (disableExtra company) fun _ => True := by
  apply Maintains.mapError
  apply Maintains.bind listWorkflows_maintains
  intro workflows apart
  split
  · exact Maintains.pure trivial
  · rename_i survivor survives
    have apartExtra : Store.Apart ((workflows.filter fun w =>
        w.id ≠ survivor.id && w.enabled).map Workflow.id) others :=
      apart.subset fun i listed => (List.filter_sublist.map _).subset listed
    have apartSurvivor : Store.Apart [survivor.id] others := by
      apply apart.subset
      intro i listed
      rw [List.mem_singleton.mp listed]
      exact List.mem_map_of_mem (Workflow.mem_of_survivor survives)
    apply Maintains.perhaps fun _ => setWorkflowsEnabled_maintains apartExtra false
    apply Maintains.perhaps fun _ => setWorkflowsEnabled_maintains apartSurvivor true
    exact Maintains.pure trivial

theorem enableAll_maintains (company : Uuid) :
    Maintains (Surrounds others outages company) (enableAll company) fun _ => True := by
  apply Maintains.mapError
  apply Maintains.bind listWorkflows_maintains
  intro workflows apart
  have apartDisabled : Store.Apart ((workflows.filter fun w => !w.enabled).map Workflow.id) others :=
    apart.subset fun i listed => (List.filter_sublist.map _).subset listed
  apply Maintains.perhaps fun _ => setWorkflowsEnabled_maintains apartDisabled true
  exact Maintains.pure trivial

end Workflows

/-! ## Calls -/

/-- A call in the administration of workflows. -/
inductive AdminCall where
  | create (draft : WorkflowDraft)
  | list
  | get (id : Uuid)
  | delete (id : Uuid)
  | switch (id : Uuid) (enabled : Bool)
  | restrictPlan
  | liftPlan

/-- The call as it is made for a company. -/
def AdminCall.operation (company : Uuid) : AdminCall → Operation
  | .create draft => .createWorkflow company draft
  | .list => .listWorkflows company
  | .get id => .getWorkflow company id
  | .delete id => .deleteWorkflow company id
  | .switch id enabled => .switchWorkflow company id enabled
  | .restrictPlan => .restrictPlan company
  | .liftPlan => .liftPlan company

namespace Desk.Surrounds

variable {others : List Entry} {outages : List (Channel × Outage)} {company : Uuid} {desk : Desk}

/-- A call for a company leaves the entries of other companies as they are. -/
theorem after (surrounds : desk.Surrounds others outages company) (call : AdminCall) :
    ((call.operation company).after desk).Surrounds others outages company := by
  cases call with
  | create draft => exact (Workflows.create_maintains company draft desk surrounds).1
  | list => exact (Workflows.list_maintains company desk surrounds).1
  | get id => exact (Workflows.get_maintains company id desk surrounds).1
  | delete id => exact (Workflows.delete_maintains company id desk surrounds).1
  | switch id enabled => exact (Workflows.setEnabled_maintains company id enabled desk surrounds).1
  | restrictPlan => exact (Workflows.disableExtra_maintains company desk surrounds).1
  | liftPlan => exact (Workflows.enableAll_maintains company desk surrounds).1

/-- So does every sequence of calls. -/
theorem serve (surrounds : desk.Surrounds others outages company) (calls : List AdminCall) :
    (desk.serve (calls.map (AdminCall.operation company))).Surrounds others outages company := by
  induction calls generalizing desk with
  | nil => exact surrounds
  | cons call rest ih => exact ih (surrounds.after call)

/-- Two desks with the same entries of other companies list the same for each of them. -/
theorem run_list (surrounds : desk.Surrounds others outages company) {later : Desk}
    (surrounds' : later.Surrounds others outages company) {other : Uuid}
    (foreign : other ≠ company) :
    ((Workflows.list other).run later).1 = ((Workflows.list other).run desk).1 := by
  apply run_mapError_congr
  apply run_read_congr_answer
  · exact surrounds.store.workflowsOf_eq surrounds'.store foreign
  · exact surrounds'.outages.trans surrounds.outages.symm

end Desk.Surrounds

/-! ## Identifiers of other companies -/

namespace Store

/-- A workflow with the identifier is stored for the company. -/
def BelongsTo (s : Store) (id company : Uuid) : Prop :=
  ∃ row ∈ s.workflows, row.id = id.text ∧ row.companyId = company.text

/-- No workflow has the identifier. -/
def Lacks (s : Store) (id : Uuid) : Prop :=
  ∀ row ∈ s.workflows, row.id ≠ id.text

variable {s : Store} {company id : Uuid}

/-- The company has no workflow with the identifier, whoever else may have one. -/
def Withholds (s : Store) (company id : Uuid) : Prop :=
  ∃ found, s.findWorkflow id = .ok found ∧ found.filter (fun w => w.companyId = company) = none

theorem withholds_of_lacks (reachable : s.Reachable Instant.Legible) (lacks : s.Lacks id) :
    s.Withholds company id := by
  obtain ⟨entries, holds, legible⟩ := reachable.sound.held
  have absent : (entries.find? fun e => e.workflow.id = id) = none := by
    rw [List.find?_eq_none]
    intro e member named
    have row : e.row ∈ s.workflows := holds.workflows ▸ List.mem_map_of_mem member
    exact lacks e.row row (congrArg Uuid.text (of_decide_eq_true named))
  refine ⟨none, ?_, rfl⟩
  apply (holds.findWorkflow_eq_ok_iff reachable.sound.intact).mpr
  exact ⟨fun e member _ => legible e member, by rw [absent]; rfl⟩

theorem withholds_of_belongsTo (reachable : s.Reachable Instant.Legible) {owner : Uuid}
    (foreign : owner ≠ company) (belongs : s.BelongsTo id owner) : s.Withholds company id := by
  obtain ⟨entries, holds, legible⟩ := reachable.sound.held
  obtain ⟨row, memberRow, named, owned⟩ := belongs
  rw [holds.workflows] at memberRow
  obtain ⟨e, member, rfl⟩ := List.mem_map.mp memberRow
  have isNamed : e.workflow.id = id := Uuid.text_injective named
  have isOwned : e.workflow.companyId = owner := Uuid.text_injective owned
  have located : (entries.find? fun e => e.workflow.id = id) = some e := by
    apply find?_eq_some_of_unique member (decide_eq_true isNamed)
    intro other memberOther same
    exact holds.eq_of_id memberOther member ((of_decide_eq_true same).trans isNamed.symm)
  refine ⟨some e.workflow.stored, ?_, ?_⟩
  · apply (holds.findWorkflow_eq_ok_iff reachable.sound.intact).mpr
    exact ⟨fun e member _ => legible e member, by rw [located]; rfl⟩
  · have notOwn : ¬e.workflow.stored.companyId = company := fun own => foreign (isOwned.symm.trans own)
    simp [Option.filter, notOwn]

end Store

namespace Workflows

/-- How a call ends that is about a workflow the company does not have, depending on
whether the way to the store is in order. -/
def refusal {α : Type} : Option Outage → Outcome WorkflowError α
  | none => .failed .notFound
  | some (.fails error) => .failed (.ofStore error)
  | some .stalls => .stalled

/-- Whatever the company asks about the identifier is refused, and nothing is changed. -/
structure Refused (company id : Uuid) (desk : Desk) : Prop where
  get : (get company id).run desk = (refusal (desk.outages.lookup .findWorkflow), desk)
  delete : (delete company id).run desk = (refusal (desk.outages.lookup .findWorkflow), desk)
  setEnabled (enabled : Bool) : (setEnabled company id enabled).run desk =
    (refusal (desk.outages.lookup .findWorkflow), desk)

variable {company id : Uuid} {desk : Desk}

theorem run_get_of_withholds (withholds : desk.store.Withholds company id) :
    (get company id).run desk = (refusal (desk.outages.lookup .findWorkflow), desk) := by
  obtain ⟨found, answer, kept⟩ := withholds
  rw [get, run_bind, run_mapError, Desk.findWorkflow]
  cases state : desk.outages.lookup .findWorkflow with
  | some outage =>
      have blocked : (through .findWorkflow (read fun s => s.findWorkflow id)).run desk =
          match outage with
          | .fails error => (.failed error, desk)
          | .stalls => (.stalled, desk) := by
        cases outage <;> simp [through, state]
      rw [blocked]
      cases outage <;> rfl
  | none =>
      rw [run_through state, run_read, answer]
      dsimp only
      rw [kept]
      rfl

/-- What comes after a refusal is not done. -/
theorem run_bind_of_refusal {α β : Type} {first : Job WorkflowError α} {state : Option Outage}
    (refuses : first.run desk = (refusal state, desk)) (next : α → Job WorkflowError β) :
    (first >>= next).run desk = (refusal state, desk) := by
  rw [run_bind, refuses]
  rcases state with _ | _ | _ <;> rfl

theorem refused_of_withholds (withholds : desk.store.Withholds company id) :
    Refused company id desk := by
  have refuses := run_get_of_withholds withholds
  constructor
  · exact refuses
  · exact run_bind_of_refusal refuses _
  · exact fun enabled => run_bind_of_refusal refuses _

/-- Whatever is called for one company, every other company lists the same workflows.  An
identifier of another company is refused exactly as one of no workflow is. -/
theorem administration_isolated {desk : Desk} (reachable : desk.store.Reachable Instant.Legible)
    (company : Uuid) :
    (∀ (calls : List AdminCall) (other : Uuid), other ≠ company →
      ((list other).run (desk.serve (calls.map (AdminCall.operation company)))).1 =
        ((list other).run desk).1) ∧
    (∀ id owner, desk.store.BelongsTo id owner → owner ≠ company → Refused company id desk) ∧
      ∀ id, desk.store.Lacks id → Refused company id desk := by
  refine ⟨?_, ?_, ?_⟩
  · intro calls other foreign
    obtain ⟨entries, holds, -⟩ := reachable.sound.held
    have surrounds : desk.Surrounds (Store.foreignEntries company entries) desk.outages company :=
      ⟨⟨reachable.sound.intact, entries, holds, rfl⟩, rfl⟩
    exact surrounds.run_list (surrounds.serve calls) foreign
  · intro id owner belongs foreign
    exact refused_of_withholds (Store.withholds_of_belongsTo reachable foreign belongs)
  · intro id lacks
    exact refused_of_withholds (Store.withholds_of_lacks reachable lacks)

/-- A workflow of one company. -/
def neighbouring : Workflow where
  id := Uuid.ofNat 50
  companyId := Uuid.ofNat 8
  title := "Next door"
  trigger := .webhook
  conditions := []
  action := .empty
  enabled := true
  createdAt := Desk.newYear 2026 Desk.isDate_newYear2026
  updatedAt := Desk.newYear 2026 Desk.isDate_newYear2026

/-- A desk at which no other workflow was ever stored. -/
def neighbourhood : Desk :=
  { Desk.blank (Desk.newYear 2026 Desk.isDate_newYear2026) with
    store := { Store.empty with
      workflows := [.ofWorkflow (Uuid.ofNat 0) neighbouring]
      actions := [.ofAction (Uuid.ofNat 0) .empty] } }

/-- Another company cannot switch, remove or restrict the workflow, and gets the answers it
gets for an identifier of no workflow. -/
theorem administration_isolated_neighbours :
    ((list (Uuid.ofNat 8)).run (neighbourhood.serve
        ([.switch (Uuid.ofNat 50) false, .delete (Uuid.ofNat 50), .restrictPlan].map
          (AdminCall.operation (Uuid.ofNat 7))))).1 =
      ((list (Uuid.ofNat 8)).run neighbourhood).1 ∧
    (delete (Uuid.ofNat 7) (Uuid.ofNat 50)).run neighbourhood = (.failed .notFound, neighbourhood) ∧
      (delete (Uuid.ofNat 7) (Uuid.ofNat 51)).run neighbourhood =
        (.failed .notFound, neighbourhood) := by
  have dated : ∀ t ∈ neighbouring.instants, t.Legible := by
    have legible : neighbouring.createdAt.Legible := by decide
    show AllLegible [neighbouring.createdAt, neighbouring.createdAt]
    simp [legible]
  have added : Store.empty.addWorkflow Uuid.ofNat neighbouring = .ok neighbourhood.store := rfl
  have reachable : neighbourhood.store.Reachable Instant.Legible :=
    Store.Reachable.empty.step (.addWorkflow added dated)
  have differ : Uuid.ofNat 8 ≠ Uuid.ofNat 7 := by decide
  have belongs : neighbourhood.store.BelongsTo (Uuid.ofNat 50) (Uuid.ofNat 8) :=
    ⟨_, List.mem_singleton.mpr rfl, rfl, rfl⟩
  have lacks : neighbourhood.store.Lacks (Uuid.ofNat 51) := by
    intro row member named
    rw [List.mem_singleton.mp member] at named
    exact absurd (Uuid.text_injective named) (by decide)
  obtain ⟨lists, refusesForeign, refusesAbsent⟩ :=
    administration_isolated reachable (Uuid.ofNat 7)
  exact ⟨lists _ _ differ, (refusesForeign _ _ belongs differ).delete,
    (refusesAbsent _ lacks).delete⟩

end Workflows

end Caretaker
