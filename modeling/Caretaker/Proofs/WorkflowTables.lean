import Caretaker.Proofs.Operations
import Caretaker.Proofs.Store.Assembly
import Caretaker.Proofs.Store.Kept
import Caretaker.Proofs.WorkflowMap

/-!
# Three tables are one map

A store that started without workflows answers every sequence of calls as the map of
workflows does, and whoever reads it afterwards finds what the map has: the workflow with
an identifier, and the workflows of a company, or of a company for a trigger, each once.  Only
a list of more workflows than one query takes values for is refused.

What carries this over a sequence is that the store holds entries, and the map has the
workflows of these entries.  Identifiers for rows are drawn once and never again, so they
are in use only in rows of entries that were added earlier.
-/

namespace Caretaker

open Calendar

namespace Entry

/-- The identifiers of the condition rows. -/
def conditionIds (e : Entry) : List Uuid :=
  (List.range e.workflow.conditions.length).map fun position => e.rowId (position + 1)

/-- The identifiers of the action row and of the condition rows. -/
def rowIds (e : Entry) : List Uuid :=
  e.rowId 0 :: e.conditionIds

theorem map_id_conditionRows (e : Entry) :
    e.conditionRows.map ConditionRow.id = e.conditionIds.map Uuid.text := by
  apply List.ext_getElem
  · simp [conditionRows, Store.conditionRows, conditionIds]
  · intro position inside inside'
    simp [conditionRows, Store.conditionRows, conditionIds, ConditionRow.ofCondition]

theorem rowIds_switch (ids : List Uuid) (enabled : Bool) (now : Instant) (e : Entry) :
    (e.switch ids enabled now).rowIds = e.rowIds := by
  unfold switch
  split <;> rfl

end Entry

/-- The identifiers for rows that a call draws. -/
def WorkflowCall.rowIds : WorkflowCall → List Uuid
  | .create fresh w => Entry.rowIds ⟨fresh, w⟩
  | .setEnabled _ _ _ | .delete _ => []

/-- Everything that the call writes can be kept. -/
def WorkflowCall.Storable : WorkflowCall → Prop
  | .create _ w => w.Storable
  | .setEnabled _ _ now => now.Legible
  | .delete _ => True

namespace Store

/-- Make one call, and have what it is answered and the store after it. -/
def call (s : Store) : WorkflowCall → Except StoreError (WorkflowAnswer × Store)
  | .create fresh w => do
      let s' ← s.addWorkflow fresh w
      return (.created, s')
  | .setEnabled ids enabled now => do
      let s' ← s.setEnabled ids enabled now
      return (.switched, s')
  | .delete id => do
      let (existed, s') ← s.removeWorkflow id
      return (.deleted existed, s')

/-- Make one call.  A call that fails leaves the store as it is. -/
def perform (s : Store) (call : WorkflowCall) : Except StoreError WorkflowAnswer × Store :=
  match s.call call with
  | .ok (answer, s') => (.ok answer, s')
  | .error error => (.error error, s)

/-- The identifiers are all different, and no row of an action or a condition has one. -/
structure Spare (s : Store) (ids : List Uuid) : Prop where
  distinct : ids.Nodup
  actions : ∀ row ∈ s.actions, ∀ id ∈ ids, row.id ≠ id.text
  conditions : ∀ row ∈ s.conditions, ∀ id ∈ ids, row.id ≠ id.text

variable {s s' : Store} {entries : List Entry}

/-! ## Creating -/

theorem repeatsId_eq_false {taken ids : List String} (distinct : ids.Nodup)
    (spare : ∀ id ∈ ids, id ∉ taken) : repeatsId taken ids = false := by
  induction ids generalizing taken with
  | nil => rfl
  | cons id rest ih =>
      rw [List.nodup_cons] at distinct
      rw [List.forall_mem_cons] at spare
      have first : taken.contains id = false := by simpa using spare.1
      have others : ∀ other ∈ rest, other ∉ id :: taken := by
        intro other member listed
        rcases List.mem_cons.mp listed with rfl | old
        · exact distinct.1 member
        · exact spare.2 other member old
      rw [repeatsId, first, ih distinct.2 others]
      rfl

/-- With spare identifiers for its rows, a workflow is added unless there is one with its
identifier. -/
theorem addWorkflow_of_spare (intact : s.Intact) {fresh : Nat → Uuid} {w : Workflow}
    (spare : s.Spare (Entry.rowIds ⟨fresh, w⟩)) :
    s.addWorkflow fresh w =
      if s.workflows.any fun row => row.id == w.id.text then
        .error (.conflict (.workflow w.id.text))
      else .ok { s with
        actions := s.actions ++ [.ofAction (fresh 0) w.action]
        conditions := s.conditions ++ conditionRows fresh w
        workflows := s.workflows ++ [.ofWorkflow (fresh 0) w] } := by
  have newAction : (s.actions.any fun row => row.id == (fresh 0).text) = false := by
    apply List.any_eq_false.mpr
    intro row member same
    exact spare.actions row member _ List.mem_cons_self (eq_of_beq same)
  have rows : (conditionRows fresh w).map ConditionRow.id =
      (Entry.conditionIds ⟨fresh, w⟩).map Uuid.text :=
    Entry.map_id_conditionRows ⟨fresh, w⟩
  have newConditions : repeatsId (s.conditions.map ConditionRow.id)
      ((conditionRows fresh w).map ConditionRow.id) = false := by
    rw [rows]
    apply repeatsId_eq_false
    · exact (List.nodup_cons.mp spare.distinct).2.map Uuid.text_injective
    · rw [List.forall_mem_map]
      intro id member listed
      obtain ⟨row, memberRow, same⟩ := List.mem_map.mp listed
      exact spare.conditions row memberRow id (List.mem_cons_of_mem _ member) same
  simp only [addWorkflow, intact.require, ok_bind, newAction, newConditions, ite_self,
    Bool.false_eq_true, if_false]
  rfl

/-! ## The map of the entries -/

/-- The workflows of the entries by their identifiers. -/
def entryMap (entries : List Entry) : WorkflowMap :=
  fun id => (entries.find? fun e => e.workflow.id = id).map Entry.workflow

theorem isSome_entryMap (entries : List Entry) (id : Uuid) :
    (entryMap entries id).isSome = entries.any fun e => e.workflow.id = id := by
  rw [entryMap, Option.isSome_map, List.isSome_find?]

theorem entryMap_concat {e : Entry} (isNew : entryMap entries e.workflow.id = none) :
    entryMap (entries ++ [e]) =
      Function.update (entryMap entries) e.workflow.id (some e.workflow) := by
  funext id
  rw [entryMap, List.find?_append, Option.map_or]
  by_cases same : id = e.workflow.id
  · rw [same, Function.update_self]
    rw [entryMap] at isNew
    rw [isNew, Option.none_or, List.find?_singleton, if_pos (decide_eq_true rfl)]
    rfl
  · have differs : ¬decide (e.workflow.id = id) = true := by
      simpa using fun equal => same equal.symm
    rw [Function.update_of_ne same, List.find?_singleton, if_neg differs, Option.map_none,
      Option.or_none]
    rfl

theorem entryMap_switch (ids : List Uuid) (enabled : Bool) (now : Instant) (entries : List Entry) :
    entryMap (entries.map (Entry.switch ids enabled now)) =
      (entryMap entries).write (.setEnabled ids enabled now) := by
  funext id
  have named : (fun e : Entry => decide (e.workflow.id = id)) ∘ Entry.switch ids enabled now =
      fun e => decide (e.workflow.id = id) := by
    funext e
    rw [Function.comp_apply, Entry.id_switch]
  rw [entryMap, List.find?_map, named, Option.map_map]
  simp only [WorkflowMap.write, entryMap]
  cases located : entries.find? fun e => e.workflow.id = id with
  | none => simp
  | some e =>
      have own : e.workflow.id = id := by simpa using List.find?_some located
      by_cases listed : id ∈ ids
      · simp [listed, Entry.switch, own, Workflow.switched]
      · simp [listed, Entry.switch, own]

theorem entryMap_without (id : Uuid) (entries : List Entry) :
    entryMap (without id entries) = Function.update (entryMap entries) id none := by
  funext other
  rw [entryMap, without, List.find?_filter]
  by_cases same : other = id
  · rw [same, Function.update_self, Option.map_eq_none_iff, List.find?_eq_none]
    intro e _
    simp
  · have picks : (fun e : Entry => decide (decide (e.workflow.id ≠ id) = true ∧
        decide (e.workflow.id = other) = true)) = fun e => decide (e.workflow.id = other) := by
      funext e
      by_cases own : e.workflow.id = other
      · simp [own, same]
      · simp [own]
    rw [picks, Function.update_of_ne same]
    rfl

/-! ## One call -/

/-- The store holds the entries, everything in them can be kept, and their rows only have
identifiers that are among the taken ones. -/
structure Carries (s : Store) (taken : List Uuid) (entries : List Entry) : Prop where
  intact : s.Intact
  holds : s.Holds entries
  storable : ∀ e ∈ entries, e.workflow.Storable
  drawn : ∀ e ∈ entries, ∀ id ∈ e.rowIds, id ∈ taken

/-- A call at the store is answered as at the map of the entries, and does the same. -/
structure Follows (s : Store) (taken : List Uuid) (entries : List Entry) (call : WorkflowCall) :
    Prop where
  answers : (s.perform call).1 = (entryMap entries).answer call
  writes : ∃ entries', (s.perform call).2.Carries (taken ++ call.rowIds) entries' ∧
    entryMap entries' = (entryMap entries).write call

variable {taken : List Uuid}

theorem perform_of_ok (s : Store) (call : WorkflowCall) {s' : Store} {answer : WorkflowAnswer}
    (done : s.call call = .ok (answer, s')) : s.perform call = (.ok answer, s') := by
  rw [perform, done]

theorem perform_of_error {call : WorkflowCall} {error : StoreError}
    (failed : s.call call = .error error) : s.perform call = (.error error, s) := by
  rw [perform, failed]

theorem Carries.weaken (carries : s.Carries taken entries) (more : List Uuid) :
    s.Carries (taken ++ more) entries where
  intact := carries.intact
  holds := carries.holds
  storable := carries.storable
  drawn e member id drawn := List.mem_append_left more (carries.drawn e member id drawn)

theorem Carries.concat (carries : s.Carries taken entries) {e : Entry}
    (storable : e.workflow.Storable) (holds : s'.Holds (entries ++ [e])) (intact : s'.Intact) :
    s'.Carries (taken ++ e.rowIds) (entries ++ [e]) where
  intact := intact
  holds := holds
  storable := by
    rw [List.forall_mem_append, List.forall_mem_singleton]
    exact ⟨carries.storable, storable⟩
  drawn := by
    rw [List.forall_mem_append, List.forall_mem_singleton]
    constructor
    · intro old member id drawn
      exact List.mem_append_left _ (carries.drawn old member id drawn)
    · exact fun id drawn => List.mem_append_right _ drawn

theorem storable_switch {e : Entry} (storable : e.workflow.Storable) {now : Instant}
    (legible : now.Legible) (ids : List Uuid) (enabled : Bool) :
    (e.switch ids enabled now).workflow.Storable := by
  unfold Entry.switch
  split
  · constructor
    · have instants := storable.legible
      simp only [Workflow.instants, Workflow.ownInstants, allLegible_append, allLegible_cons]
        at instants ⊢
      exact ⟨⟨instants.1.1, legible, instants.1.2.2⟩, instants.2⟩
    · exact storable.numeric
  · exact storable

theorem Carries.switch (carries : s.Carries taken entries) {ids : List Uuid} {enabled : Bool}
    {now : Instant} (legible : now.Legible)
    (holds : s'.Holds (entries.map (Entry.switch ids enabled now))) (intact : s'.Intact) :
    s'.Carries taken (entries.map (Entry.switch ids enabled now)) where
  intact := intact
  holds := holds
  storable := by
    rw [List.forall_mem_map]
    intro e member
    exact storable_switch (carries.storable e member) legible ids enabled
  drawn := by
    rw [List.forall_mem_map]
    intro e member id drawn
    rw [e.rowIds_switch] at drawn
    exact carries.drawn e member id drawn

theorem Carries.drop (carries : s.Carries taken entries) {id : Uuid}
    (holds : s'.Holds (without id entries)) (intact : s'.Intact) :
    s'.Carries taken (without id entries) where
  intact := intact
  holds := holds
  storable e member := carries.storable e (List.mem_of_mem_filter member)
  drawn e member := carries.drawn e (List.mem_of_mem_filter member)

/-- Identifiers that were not taken yet are spare. -/
theorem Carries.spare (carries : s.Carries taken entries) {ids : List Uuid}
    (fresh : (taken ++ ids).Nodup) : s.Spare ids := by
  obtain ⟨-, distinct, apart⟩ := List.nodup_append.mp fresh
  constructor
  · exact distinct
  · rw [carries.holds.actions, List.forall_mem_map]
    intro e member id listed same
    have used : e.rowId 0 ∈ taken := carries.drawn e member _ List.mem_cons_self
    exact apart _ used id listed (Uuid.text_injective same)
  · rw [carries.holds.conditions]
    intro row memberRow id listed same
    obtain ⟨e, member, own⟩ := List.mem_flatMap.mp memberRow
    have named : row.id ∈ e.conditionRows.map ConditionRow.id := List.mem_map_of_mem own
    rw [e.map_id_conditionRows] at named
    obtain ⟨used, memberUsed, sameText⟩ := List.mem_map.mp named
    have isTaken : used ∈ taken := carries.drawn e member used (List.mem_cons_of_mem _ memberUsed)
    exact apart used isTaken id listed (Uuid.text_injective (sameText.trans same))

theorem Carries.any_workflows (carries : s.Carries taken entries) (id : Uuid) :
    (s.workflows.any fun row => row.id == id.text) = (entryMap entries id).isSome := by
  rw [isSome_entryMap, carries.holds.workflows, List.any_map]
  simp [Function.comp_def]

/-- What is answered to a workflow whose identifier is in the map already. -/
theorem Carries.call_create_known (carries : s.Carries taken entries) {fresh : Nat → Uuid}
    {w : Workflow} (spare : s.Spare (Entry.rowIds ⟨fresh, w⟩))
    (known : (entryMap entries w.id).isSome = true) :
    s.call (.create fresh w) = .error (.conflict (.workflow w.id.text)) := by
  rw [call, addWorkflow_of_spare carries.intact spare, carries.any_workflows, if_pos known]
  rfl

theorem Carries.follows_create (carries : s.Carries taken entries) {fresh : Nat → Uuid}
    {w : Workflow} (spare : s.Spare (Entry.rowIds ⟨fresh, w⟩)) (storable : w.Storable) :
    s.Follows taken entries (.create fresh w) := by
  by_cases known : (entryMap entries w.id).isSome = true
  · have run := perform_of_error (carries.call_create_known spare known)
    constructor
    · rw [run, WorkflowMap.answer, if_pos known]
    · rw [run, WorkflowMap.write, if_pos known]
      exact ⟨entries, carries.weaken _, rfl⟩
  · have added := addWorkflow_of_spare carries.intact spare
    rw [carries.any_workflows, if_neg known] at added
    have run := perform_of_ok s (.create fresh w) (by rw [call, added]; rfl)
    constructor
    · rw [run, WorkflowMap.answer, if_neg known]
    · rw [run, WorkflowMap.write, if_neg known]
      have holds := carries.holds.addWorkflow carries.intact added
      have isNew := Option.not_isSome_iff_eq_none.mp known
      exact ⟨_, carries.concat storable holds carries.intact, entryMap_concat isNew⟩

theorem Carries.follows_setEnabled (carries : s.Carries taken entries) (ids : List Uuid)
    (enabled : Bool) {now : Instant} (legible : now.Legible) :
    s.Follows taken entries (.setEnabled ids enabled now) := by
  have switched := setEnabled_eq carries.intact ids enabled now
  have run := perform_of_ok s (.setEnabled ids enabled now) (by rw [call, switched]; rfl)
  constructor
  · rw [run]
    rfl
  · rw [run]
    have holds := carries.holds.setEnabled carries.intact switched
    exact ⟨_, (carries.switch legible holds carries.intact).weaken _,
      entryMap_switch ids enabled now entries⟩

theorem Carries.follows_delete (carries : s.Carries taken entries) (id : Uuid) :
    s.Follows taken entries (.delete id) := by
  have removed := carries.holds.removeWorkflow_eq carries.intact id
  have run := perform_of_ok s (.delete id) (by rw [call, removed]; rfl)
  constructor
  · rw [run, WorkflowMap.answer, isSome_entryMap]
  · rw [run]
    have holds := carries.holds.removeWorkflow carries.intact removed
    exact ⟨_, (carries.drop holds carries.intact).weaken _, entryMap_without id entries⟩

theorem Carries.follows (carries : s.Carries taken entries) {call : WorkflowCall}
    (fresh : (taken ++ call.rowIds).Nodup) (storable : call.Storable) :
    s.Follows taken entries call := by
  cases call with
  | create drawn w => exact carries.follows_create (carries.spare fresh) storable
  | setEnabled ids enabled now => exact carries.follows_setEnabled ids enabled storable
  | delete id => exact carries.follows_delete id

/-! ## Many calls -/

/-- A sequence of calls at the store is answered as at the map of the entries, and the store
carries the entries of the map that comes of it. -/
theorem Carries.performAll (carries : s.Carries taken entries) {calls : List WorkflowCall}
    (fresh : (taken ++ calls.flatMap WorkflowCall.rowIds).Nodup)
    (storable : ∀ call ∈ calls, call.Storable) :
    (performAll perform s calls).1 = (performAll WorkflowMap.perform (entryMap entries) calls).1 ∧
      ∃ taken' entries', (performAll perform s calls).2.Carries taken' entries' ∧
        entryMap entries' = (performAll WorkflowMap.perform (entryMap entries) calls).2 := by
  induction calls generalizing s taken entries with
  | nil => exact ⟨rfl, taken, entries, carries, rfl⟩
  | cons call rest ih =>
      rw [List.forall_mem_cons] at storable
      rw [List.flatMap_cons, ← List.append_assoc] at fresh
      obtain ⟨answers, entries', carries', write⟩ :=
        carries.follows (List.nodup_append.mp fresh).1 storable.1
      obtain ⟨answersRest, last⟩ := ih carries' fresh storable.2
      rw [write] at answersRest last
      constructor
      · exact List.cons_eq_cons.mpr ⟨answers, answersRest⟩
      · exact last

/-! ## Reading -/

end Store

namespace WorkflowMap

/-- The workflows are those of the map that are picked, each once. -/
structure Lists (m : WorkflowMap) (picked : Workflow → Prop) (found : List Workflow) : Prop where
  once : (found.map Workflow.id).Nodup
  only : ∀ stored ∈ found, ∃ w, m stored.id = some w ∧ picked w ∧ w.KeptAs stored
  all : ∀ id w, m id = some w → picked w → ∃ stored ∈ found, stored.id = id

end WorkflowMap

namespace Store

variable {s : Store} {entries : List Entry} {taken : List Uuid}

theorem Carries.entryMap_of_mem (carries : s.Carries taken entries) {e : Entry}
    (member : e ∈ entries) : entryMap entries e.workflow.id = some e.workflow := by
  rw [entryMap, carries.holds.find?_of_mem member]
  rfl

theorem mem_of_entryMap {id : Uuid} {w : Workflow} (entry : entryMap entries id = some w) :
    ∃ e ∈ entries, e.workflow = w ∧ w.id = id := by
  obtain ⟨e, located, rfl⟩ := Option.map_eq_some_iff.mp entry
  exact ⟨e, List.mem_of_find?_eq_some located, rfl, by simpa using List.find?_some located⟩

theorem Carries.legible (carries : s.Carries taken entries) {picked : Entry → Prop} :
    ∀ e ∈ entries, picked e → AllLegible e.workflow.instants :=
  fun e member _ => (carries.storable e member).legible

theorem Carries.find (carries : s.Carries taken entries) (id : Uuid) :
    ∃ found, s.findWorkflow id = .ok found ∧
      Option.Rel Workflow.KeptAs (entryMap entries id) found := by
  apply Exists.intro ((entries.find? fun e => e.workflow.id = id).map fun e => e.workflow.stored)
  constructor
  · exact (carries.holds.findWorkflow_eq_ok_iff carries.intact).mpr ⟨carries.legible, rfl⟩
  · rw [entryMap]
    cases located : entries.find? fun e => e.workflow.id = id with
    | none => exact .none
    | some e =>
        have member : e ∈ entries := List.mem_of_find?_eq_some located
        exact .some (Workflow.keptAs_stored (carries.storable e member))

/-- Entries that a test picks give the workflows of the map that it picks. -/
theorem Carries.lists (carries : s.Carries taken entries) (picked : Workflow → Prop)
    [DecidablePred picked] :
    (entryMap entries).Lists picked
      ((oldestEntries (entries.filter fun e => picked e.workflow)).map fun e => e.workflow.stored)
    where
  once := by
    rw [List.map_map]
    have sorted := (oldestEntries_perm (entries.filter fun e => picked e.workflow)).map
      fun e => e.workflow.id
    apply sorted.nodup_iff.mpr
    exact carries.holds.distinctIds.sublist (List.filter_sublist.map _)
  only stored member := by
    obtain ⟨e, listed, rfl⟩ := List.mem_map.mp member
    obtain ⟨memberE, isPicked⟩ := List.mem_filter.mp (mem_oldestEntries.mp listed)
    exact ⟨e.workflow, carries.entryMap_of_mem memberE, of_decide_eq_true isPicked,
      Workflow.keptAs_stored (carries.storable e memberE)⟩
  all id w entry isPicked := by
    obtain ⟨e, member, rfl, named⟩ := mem_of_entryMap entry
    have listed : e ∈ oldestEntries (entries.filter fun e => picked e.workflow) :=
      mem_oldestEntries.mpr (List.mem_filter.mpr ⟨member, decide_eq_true isPicked⟩)
    exact ⟨e.workflow.stored, List.mem_map_of_mem listed, named⟩

/-! ## Rows and their workflows -/

/-- The store without the rows of a workflow: its own, that of its action, and those of its
conditions. -/
def withoutRows (s : Store) (id : Uuid) : Store :=
  { s with
    workflows := s.workflows.filter fun row => row.id != id.text
    actions := s.actions.filter fun action =>
      !s.workflows.any fun row => row.id == id.text && row.actionId == action.id
    conditions := s.conditions.filter fun row => row.workflowId != id.text }

/-- Every action row is that of one workflow, and every condition row names a workflow. -/
structure Owned (s : Store) : Prop where
  actions : s.actions.map ActionRow.id = s.workflows.map WorkflowRow.actionId
  distinct : (s.actions.map ActionRow.id).Nodup
  conditions : ∀ row ∈ s.conditions, ∃ owner ∈ s.workflows, owner.id = row.workflowId

theorem Carries.owned (carries : s.Carries taken entries) : s.Owned where
  actions := by
    rw [carries.holds.actions, carries.holds.workflows, List.map_map, List.map_map]
    rfl
  distinct := by
    have texts := carries.holds.distinctRows.map Uuid.text_injective
    rw [List.map_map] at texts
    rw [carries.holds.actions, List.map_map]
    exact texts
  conditions := by
    rw [carries.holds.conditions, carries.holds.workflows]
    intro row memberRow
    obtain ⟨e, member, own⟩ := List.mem_flatMap.mp memberRow
    exact ⟨e.row, List.mem_map_of_mem member, (Entry.workflowId_of_mem_conditionRows own).symm⟩

/-- Removing a workflow takes its rows out, and no others. -/
theorem Carries.removeWorkflow (carries : s.Carries taken entries) (id : Uuid) :
    s.removeWorkflow id = .ok ((entryMap entries id).isSome, s.withoutRows id) := by
  have holds := carries.holds
  have owner : ∀ e ∈ entries, (!s.workflows.any fun row =>
      row.id == id.text && row.actionId == e.actionRow.id) = decide (e.workflow.id ≠ id) := by
    intro e member
    rw [holds.workflows, List.any_map]
    by_cases own : e.workflow.id = id
    · simpa [own] using ⟨e, member, own, rfl⟩
    · have others : ∀ other ∈ entries, other.workflow.id = id → other.rowId 0 ≠ e.rowId 0 := by
        intro other memberOther named sameRow
        exact own (holds.eq_of_rowId memberOther member sameRow ▸ named)
      simpa [own] using others
  have actions : s.actions.filter (fun action =>
      !s.workflows.any fun row => row.id == id.text && row.actionId == action.id) =
        (without id entries).map Entry.actionRow := by
    rw [holds.actions]
    apply map_without
    exact owner
  rw [holds.removeWorkflow_eq carries.intact, isSome_entryMap, ← holds.workflows_without, ← actions,
    ← holds.conditions_without]
  rfl

theorem Carries.setEnabled_unknown (carries : s.Carries taken entries) {ids : List Uuid}
    (unknown : ∀ id ∈ ids, entryMap entries id = none) (enabled : Bool) (now : Instant) :
    s.setEnabled ids enabled now = .ok s := by
  have passed : ∀ row ∈ s.workflows, (if ids.any fun id => row.id == id.text then
      { row with enabled := .ofBool enabled, updatedAt := now.storedText } else row) = id row := by
    intro row member
    have notNamed : (ids.any fun id => row.id == id.text) = false := by
      apply List.any_eq_false.mpr
      intro id listed same
      have known := carries.any_workflows id
      rw [unknown id listed] at known
      exact List.any_eq_false.mp known row member same
    rw [notNamed]
    rfl
  rw [setEnabled_eq carries.intact, List.map_congr_left passed, List.map_id]

/-! ## The map from outside -/

/-- Whoever reads or writes the store finds the map.  A list is read with one query that is
given a value for each of its workflows: it has exactly the workflows of the map, or it is
refused as a whole because they are more than the query takes. -/
structure Refines (s : Store) (m : WorkflowMap) : Prop where
  find (id : Uuid) :
    ∃ found, s.findWorkflow id = .ok found ∧ Option.Rel Workflow.KeptAs (m id) found
  list (company : Uuid) :
    ∃ found, s.workflowsOf company = inOneQuery found ∧ m.Lists (·.companyId = company) found
  candidates (company : Uuid) (trigger : Trigger) :
    ∃ found, s.workflowsFor company trigger = inOneQuery found ∧
      m.Lists (fun w => w.companyId = company ∧ w.trigger = trigger) found
  refusesKnown (fresh : Nat → Uuid) (w : Workflow) : (m w.id).isSome →
    s.Spare (Entry.rowIds ⟨fresh, w⟩) →
      s.perform (.create fresh w) = (.error (.conflict (.workflow w.id.text)), s)
  ignoresUnknown (ids : List Uuid) (enabled : Bool) (now : Instant) : (∀ id ∈ ids, m id = none) →
    s.setEnabled ids enabled now = .ok s
  removes (id : Uuid) : s.removeWorkflow id = .ok ((m id).isSome, s.withoutRows id)
  owned : s.Owned

theorem Carries.refines (carries : s.Carries taken entries) : s.Refines (entryMap entries) where
  find := carries.find
  list company := by
    have listed := carries.lists fun w => w.companyId = company
    exact ⟨_, carries.holds.workflowsOf_eq_of_legible carries.intact carries.legible, listed⟩
  candidates company trigger := by
    have listed := carries.lists fun w => w.companyId = company ∧ w.trigger = trigger
    exact ⟨_, carries.holds.workflowsFor_eq_of_legible carries.intact carries.legible, listed⟩
  refusesKnown _ _ known spare := perform_of_error (carries.call_create_known spare known)
  ignoresUnknown _ enabled now unknown := carries.setEnabled_unknown unknown enabled now
  removes := carries.removeWorkflow
  owned := carries.owned

/-- A store that starts without workflows refines the map of workflows, whatever calls are
made: it gives the same answers, and then everything in it is as the map has it. -/
theorem performAll_refines {s : Store} (intact : s.Intact) (noWorkflows : s.Holds [])
    (calls : List WorkflowCall) (fresh : (calls.flatMap WorkflowCall.rowIds).Nodup)
    (storable : ∀ call ∈ calls, call.Storable) :
    (performAll perform s calls).1 = (performAll WorkflowMap.perform .empty calls).1 ∧
      (performAll perform s calls).2.Refines (.after calls) ∧
        ∀ id w, WorkflowMap.after calls id = some w ↔ WorkflowMap.Origin calls id w := by
  have carries : s.Carries [] [] := ⟨intact, noWorkflows, by simp, by simp⟩
  obtain ⟨answers, taken, entries, last, entry⟩ := carries.performAll fresh storable
  have start : entryMap [] = .empty := rfl
  rw [start] at answers entry
  constructor
  · exact answers
  · constructor
    · rw [WorkflowMap.after, ← entry]
      exact last.refines
    · exact fun _ _ => WorkflowMap.after_eq_some_iff

/-- The start of the year 2026. -/
def firstTime : Instant :=
  Desk.newYear 2026 Desk.isDate_newYear2026

/-- A workflow with a number, a negative zero and an instant in its conditions. -/
def measuring : Workflow where
  id := Uuid.ofNat 50
  companyId := Uuid.ofNat 7
  title := "Measure"
  trigger := .part
  conditions := [
    { Condition.empty with numberValue := some 2.5 },
    { Condition.empty with numberValue := some (-0.0), createdTimeStart := some firstTime }]
  action := .empty
  enabled := true
  createdAt := firstTime
  updatedAt := firstTime

/-- The workflow is created twice and then switched off together with one that does not
exist, which is deleted in the end. -/
def measuringCalls : List WorkflowCall :=
  [.create Uuid.ofNat measuring, .create (fun i => Uuid.ofNat (10 + i)) measuring,
    .setEnabled [Uuid.ofNat 51, measuring.id] false firstTime, .delete (Uuid.ofNat 51)]

theorem performAll_refines_measuring :
    (performAll perform .empty measuringCalls).1 =
        [.ok .created, .error (.conflict (.workflow measuring.id.text)), .ok .switched,
          .ok (.deleted false)] ∧
      (performAll perform .empty measuringCalls).2.Refines (.after measuringCalls) ∧
        WorkflowMap.after measuringCalls measuring.id = some (measuring.switched false firstTime) := by
  have storable : measuring.Storable := by
    constructor
    · show AllLegible [firstTime, firstTime, firstTime]
      have legible : firstTime.Legible := by decide
      simp [legible]
    · decide
  have fresh : (measuringCalls.flatMap WorkflowCall.rowIds).Nodup := by decide
  have kept : ∀ call ∈ measuringCalls, call.Storable := by
    simp only [measuringCalls, List.forall_mem_cons, WorkflowCall.Storable]
    exact ⟨storable, storable, by decide, trivial, by simp⟩
  have intact : empty.Intact := rfl
  obtain ⟨answers, refines, -⟩ := performAll_refines intact holds_empty measuringCalls fresh kept
  exact ⟨answers, refines, rfl⟩

end Store

end Caretaker
