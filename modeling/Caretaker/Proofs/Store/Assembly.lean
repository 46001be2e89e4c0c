import Caretaker.Proofs.Store.Reading
import Caretaker.Proofs.Store.Spread

/-!
# Workflows put together again

Reading joins the rows of workflows with the rows of their actions, reads the
conditions of all workflows that were found in one query, and hands each workflow its
share.  On the rows of entries this gives back what is stored of their workflows:
with its own action, and with its own conditions in their order.  It fails exactly
when an instant of one of these workflows is not legible, or when the workflows are more
than the query for their conditions takes values for.
-/

namespace Caretaker

/-! ## Conditions in their places -/

/-- A condition with everything that its row has besides its matchers. -/
structure PlacedCondition where
  rowId : Uuid
  owner : Uuid
  position : Nat
  condition : Condition

namespace PlacedCondition

/-- The row of the condition. -/
def row (c : PlacedCondition) : ConditionRow :=
  .ofCondition c.rowId c.owner c.position c.condition

/-- By the text of the workflow and then by position. -/
def orderedLE (a b : PlacedCondition) : Bool :=
  Store.textFirst (fun i j => decide (i ≤ j)) (a.owner.text, a.position) (b.owner.text, b.position)

theorem conditionLE_row (a b : PlacedCondition) :
    Store.conditionLE a.row b.row = orderedLE a b := by
  have positions : Store.cellLE (.int a.position) (.int b.position) =
      decide (a.position ≤ b.position) :=
    decide_eq_decide.mpr Int.ofNat_le
  simp only [Store.conditionLE, row, ConditionRow.ofCondition, positions]
  rfl

theorem orderedLE_trans (a b c : PlacedCondition) (first : orderedLE a b)
    (second : orderedLE b c) : orderedLE a c := by
  apply Store.textFirst_trans _ _ _ _ first second
  intro i j k below below'
  exact decide_eq_true (Nat.le_trans (of_decide_eq_true below) (of_decide_eq_true below'))

theorem orderedLE_total (a b : PlacedCondition) : orderedLE a b || orderedLE b a := by
  apply Store.textFirst_total
  intro i j
  simpa using Nat.le_total i j

theorem readCondition_row_eq_ok_iff {c : PlacedCondition} {found : String × Condition} :
    Store.readCondition c.row = .ok found ↔
      AllLegible c.condition.instants ∧ (c.owner.text, c.condition.stored) = found := by
  simp only [Store.readCondition, row, bind_eq_ok_iff, pure_eq_ok_iff,
    ConditionRow.condition_ofCondition_eq_ok_iff]
  grind [ConditionRow.ofCondition]

end PlacedCondition

namespace Entry

/-- The row of an entry with the row of its action. -/
def joined (e : Entry) : Store.JoinedRow :=
  (e.row, e.actionRow)

@[simp]
theorem fst_joined (e : Entry) : e.joined.1 = e.row :=
  rfl

/-- The conditions of an entry in their places. -/
def placed (e : Entry) : List PlacedCondition :=
  e.workflow.conditions.mapIdx fun position condition =>
    ⟨e.rowId (position + 1), e.workflow.id, position, condition⟩

theorem map_row_placed (e : Entry) : e.placed.map PlacedCondition.row = e.conditionRows := by
  simp [placed, conditionRows, Store.conditionRows, List.mapIdx_eq_zipIdx_map, Function.comp_def,
    PlacedCondition.row]

theorem map_condition_placed (e : Entry) :
    e.placed.map PlacedCondition.condition = e.workflow.conditions := by
  simp [placed, List.mapIdx_eq_zipIdx_map, Function.comp_def]

theorem owner_of_mem_placed {e : Entry} {c : PlacedCondition} (member : c ∈ e.placed) :
    c.owner = e.workflow.id := by
  obtain ⟨position, inside, rfl⟩ := List.mem_mapIdx.mp member
  rfl

/-- A condition of an entry is found at its position. -/
theorem getElem?_placed {e : Entry} {c : PlacedCondition} (member : c ∈ e.placed) :
    e.placed[c.position]? = some c := by
  obtain ⟨position, inside, rfl⟩ := List.mem_mapIdx.mp member
  simp [placed, List.getElem?_eq_getElem inside]

/-- The conditions of an entry are in order already. -/
theorem placed_pairwise (e : Entry) :
    e.placed.Pairwise fun a b => PlacedCondition.orderedLE a b := by
  apply List.pairwise_iff_getElem.mpr
  intro i j insideI insideJ smaller
  simp [placed, PlacedCondition.orderedLE, Store.textFirst, Nat.le_of_lt smaller]

end Entry

namespace Store

variable {s : Store} {entries : List Entry}

/-! ## Joining -/

theorem find?_eq_some_of_unique {α : Type} {picked : α → Bool} {values : List α} {value : α}
    (member : value ∈ values) (isPicked : picked value = true)
    (unique : ∀ other ∈ values, picked other = true → other = value) :
    values.find? picked = some value := by
  cases located : values.find? picked with
  | none => exact absurd isPicked (List.find?_eq_none.mp located value member)
  | some other =>
      rw [unique other (List.mem_of_find?_eq_some located) (List.find?_some located)]

/-- An entry is found by the identifier of its workflow. -/
theorem Holds.find?_of_mem (holds : s.Holds entries) {e : Entry} (member : e ∈ entries) :
    (entries.find? fun other => other.workflow.id = e.workflow.id) = some e := by
  apply find?_eq_some_of_unique member (decide_eq_true rfl)
  intro other memberOther same
  exact holds.eq_of_id memberOther member (of_decide_eq_true same)

theorem Holds.find?_actions (holds : s.Holds entries) {e : Entry} (member : e ∈ entries) :
    (s.actions.find? fun action => action.id == e.row.actionId) = some e.actionRow := by
  have named : (fun action : ActionRow => action.id == e.row.actionId) ∘ Entry.actionRow =
      fun other => decide (other.rowId 0 = e.rowId 0) := by
    funext other
    simp
  have own : entries.find? (fun other => other.rowId 0 = e.rowId 0) = some e := by
    apply find?_eq_some_of_unique member (decide_eq_true rfl)
    intro other memberOther picked
    exact holds.eq_of_rowId memberOther member (of_decide_eq_true picked)
  rw [holds.actions, List.find?_map, named, own, Option.map_some]

theorem Holds.joined_eq (holds : s.Holds entries) : s.joined = entries.map Entry.joined := by
  rw [joined, holds.workflows, List.filterMap_map, ← List.filterMap_eq_map]
  apply List.filterMap_congr
  intro e member
  rw [Function.comp_apply, holds.find?_actions member]
  rfl

/-! ## Shares of the conditions -/

/-- Workflows with different identifiers take what is theirs and nothing else. -/
theorem attach_eq {workflows : List Workflow} (distinct : (workflows.map Workflow.id).Nodup)
    (conditions : List (String × Condition)) :
    attach conditions workflows = workflows.map fun w =>
      { w with conditions := (conditions.filter fun entry => entry.1 == w.id.text).map Prod.snd } := by
  induction workflows generalizing conditions with
  | nil => rfl
  | cons w rest ih =>
      rw [List.map_cons, List.nodup_cons] at distinct
      rw [attach, List.map_cons]
      simp only [List.partition_eq_filter_filter, ih distinct.2]
      congr 1
      apply List.map_congr_left
      intro other member
      have differ : other.id ≠ w.id := fun same =>
        distinct.1 (same ▸ List.mem_map_of_mem member)
      have share : (conditions.filter fun entry => !(entry.1 == w.id.text)).filter
          (fun entry => entry.1 == other.id.text) =
            conditions.filter fun entry => entry.1 == other.id.text := by
        rw [List.filter_filter]
        apply List.filter_congr
        intro entry _
        by_cases taken : entry.1 = other.id.text <;> simp [taken, differ]
      rw [← share]
      rfl

theorem filter_flatMap_placed (distinct : (entries.map fun e => e.workflow.id).Nodup) {e : Entry}
    (member : e ∈ entries) :
    (entries.flatMap Entry.placed).filter (fun c => c.owner.text == e.workflow.id.text) =
      e.placed := by
  have own : ∀ other ∈ entries, ∀ c ∈ other.placed, (c.owner.text == e.workflow.id.text) =
      decide (other.workflow.id = e.workflow.id) := by
    intro other _ c memberC
    rw [Entry.owner_of_mem_placed memberC, Uuid.text_beq_text]
  rw [filter_flatMap_whole own, filter_key_eq_singleton distinct member, List.flatMap_singleton]

/-- The conditions of the workflows with the given texts, in the order in which they are
read. -/
def placedFor (ids : List String) (entries : List Entry) : List PlacedCondition :=
  ((entries.flatMap Entry.placed).filter fun c => ids.contains c.owner.text).mergeSort
    PlacedCondition.orderedLE

theorem mem_placedFor {ids : List String} {c : PlacedCondition} :
    c ∈ placedFor ids entries ↔ ∃ e ∈ entries, c ∈ e.placed ∧ e.workflow.id.text ∈ ids := by
  simp only [placedFor, List.mem_mergeSort, List.mem_filter, List.mem_flatMap,
    List.contains_iff_mem]
  constructor
  · rintro ⟨⟨e, member, memberC⟩, wanted⟩
    exact ⟨e, member, memberC, Entry.owner_of_mem_placed memberC ▸ wanted⟩
  · rintro ⟨e, member, memberC, wanted⟩
    exact ⟨⟨e, member, memberC⟩, Entry.owner_of_mem_placed memberC ▸ wanted⟩

theorem placedFor_pairwise (ids : List String) (entries : List Entry) :
    (placedFor ids entries).Pairwise fun a b => PlacedCondition.orderedLE a b :=
  List.pairwise_mergeSort PlacedCondition.orderedLE_trans PlacedCondition.orderedLE_total _

/-- The share of a workflow is its own list of conditions, in its own order. -/
theorem filter_placedFor (distinct : (entries.map fun e => e.workflow.id).Nodup) {e : Entry}
    (member : e ∈ entries) {ids : List String} (wanted : e.workflow.id.text ∈ ids) :
    (placedFor ids entries).filter (fun c => c.owner.text == e.workflow.id.text) = e.placed := by
  have share : ((entries.flatMap Entry.placed).filter fun c => ids.contains c.owner.text).filter
      (fun c => c.owner.text == e.workflow.id.text) = e.placed := by
    rw [List.filter_filter, ← filter_flatMap_placed distinct member]
    apply List.filter_congr
    intro c _
    by_cases own : c.owner = e.workflow.id <;> simp [own, wanted]
  rw [placedFor, filter_mergeSort PlacedCondition.orderedLE_trans PlacedCondition.orderedLE_total,
    share]
  rw [share]
  exact e.placed_pairwise

theorem Holds.conditions_eq_placed (holds : s.Holds entries) :
    s.conditions = (entries.flatMap Entry.placed).map PlacedCondition.row := by
  simp [holds.conditions, List.map_flatMap, Entry.map_row_placed]

/-- The condition rows of some workflows, in the order in which they are read. -/
theorem Holds.sorted_conditions (holds : s.Holds entries) (ids : List String) :
    (s.conditions.filter fun row => ids.contains row.workflowId).mergeSort conditionLE =
      (placedFor ids entries).map PlacedCondition.row := by
  rw [holds.conditions_eq_placed, List.filter_map, placedFor, List.map_mergeSort]
  · rfl
  · exact fun a _ b _ => (PlacedCondition.conditionLE_row a b).symm

theorem Holds.conditionsOf_eq_ok_iff (holds : s.Holds entries) (intact : s.Intact)
    {ids : List String} {found : List (String × Condition)} :
    s.conditionsOf ids = .ok found ↔
      ids.length ≤ valueLimit ∧ (∀ c ∈ placedFor ids entries, AllLegible c.condition.instants) ∧
        (placedFor ids entries).map (fun c => (c.owner.text, c.condition.stored)) = found := by
  simp only [conditionsOf, bind_eq_ok_iff, takeValues_eq_ok_iff, intact.require, ok_bind,
    holds.sorted_conditions, exists_const]
  apply and_congr_right
  intro _
  exact readAll_map_eq_ok_iff fun c found => PlacedCondition.readCondition_row_eq_ok_iff

/-! ## Workflows -/

/-- The texts of the identifiers of some entries. -/
def idTexts (picked : List Entry) : List String :=
  picked.map fun e => e.workflow.id.text

section

variable {picked : List Entry}

theorem length_idTexts (picked : List Entry) : (idTexts picked).length = picked.length :=
  List.length_map _

theorem Holds.mem_idTexts_iff (holds : s.Holds entries) (within : ∀ e ∈ picked, e ∈ entries)
    {e : Entry} (member : e ∈ entries) : e.workflow.id.text ∈ idTexts picked ↔ e ∈ picked := by
  constructor
  · intro listed
    obtain ⟨other, picks, same⟩ := List.mem_map.mp listed
    exact holds.eq_of_id (within other picks) member (Uuid.text_injective same) ▸ picks
  · exact fun picks => List.mem_map_of_mem picks

/-- The conditions that are read are exactly those of the picked workflows. -/
theorem Holds.placedFor_legible_iff (holds : s.Holds entries)
    (within : ∀ e ∈ picked, e ∈ entries) :
    (∀ c ∈ placedFor (idTexts picked) entries, AllLegible c.condition.instants) ↔
      ∀ e ∈ picked, AllLegible (e.workflow.conditions.flatMap Condition.instants) := by
  constructor
  · intro legible e picks t member
    obtain ⟨c, memberC, memberT⟩ := List.mem_flatMap.mp member
    rw [← e.map_condition_placed] at memberC
    obtain ⟨place, memberPlace, rfl⟩ := List.mem_map.mp memberC
    have listed := (holds.mem_idTexts_iff within (within e picks)).mpr picks
    exact legible place (mem_placedFor.mpr ⟨e, within e picks, memberPlace, listed⟩) t memberT
  · intro legible c member t memberT
    obtain ⟨e, memberE, memberC, listed⟩ := mem_placedFor.mp member
    have own : c.condition ∈ e.workflow.conditions :=
      e.map_condition_placed ▸ List.mem_map_of_mem memberC
    exact legible e ((holds.mem_idTexts_iff within memberE).mp listed) t
      (List.mem_flatMap.mpr ⟨c.condition, own, memberT⟩)

/-- Every picked workflow gets its own conditions back, in their order. -/
theorem Holds.attach_placedFor (holds : s.Holds entries) (within : ∀ e ∈ picked, e ∈ entries)
    (distinct : (picked.map fun e => e.workflow.id).Nodup) :
    attach ((placedFor (idTexts picked) entries).map fun c => (c.owner.text, c.condition.stored))
        (picked.map fun e => e.workflow.bare) =
      picked.map fun e => e.workflow.stored := by
  have distinctBare : ((picked.map fun e => e.workflow.bare).map Workflow.id).Nodup := by
    simpa [Function.comp_def, Workflow.bare] using distinct
  rw [attach_eq distinctBare, List.map_map]
  apply List.map_congr_left
  intro e picks
  have share := filter_placedFor holds.distinctIds (within e picks)
    ((holds.mem_idTexts_iff within (within e picks)).mpr picks)
  have conditions : e.placed.map (fun c => c.condition.stored) =
      e.workflow.conditions.map Condition.stored := by
    rw [← e.map_condition_placed, List.map_map]
    rfl
  rw [Workflow.stored, ← conditions, ← share, Function.comp_apply, List.filter_map, List.map_map]
  rfl

/-- Without a workflow there are no conditions to read either, so that the shortcut for
no workflows makes no difference to the answer. -/
theorem Intact.readWorkflows_eq_ok_iff (intact : s.Intact) {rows : List JoinedRow}
    {found : List Workflow} :
    s.readWorkflows rows = .ok found ↔
      ∃ workflows, readAll (fun row : JoinedRow => row.1.workflow row.2) rows = .ok workflows ∧
        ∃ conditions, s.conditionsOf (workflows.map fun w => w.id.text) = .ok conditions ∧
          attach conditions workflows = found := by
  have noConditions : s.conditionsOf [] = .ok [] := by
    have free : takeValues 0 = .ok () := takeValues_of_le (Nat.zero_le _)
    simp [conditionsOf, free, intact.require, readAll]
  simp only [readWorkflows, bind_eq_ok_iff]
  apply exists_congr
  intro workflows
  apply and_congr_right
  intro _
  cases workflows with
  | nil => simp [noConditions, attach, pure_eq_ok_iff]
  | cons w rest =>
      rw [if_neg (by simp)]
      simp only [bind_eq_ok_iff, pure_eq_ok_iff]

/-- Joined rows of entries read as their workflows without conditions. -/
theorem readBare_eq_ok_iff {found : List Workflow} :
    readAll (fun row : JoinedRow => row.1.workflow row.2) (picked.map Entry.joined) = .ok found ↔
      (∀ e ∈ picked, AllLegible e.workflow.ownInstants) ∧
        picked.map (fun e => e.workflow.bare) = found := by
  apply readAll_map_eq_ok_iff
  intro e found
  exact WorkflowRow.workflow_ofWorkflow_eq_ok_iff

theorem idTexts_bare (picked : List Entry) :
    (picked.map fun e => e.workflow.bare).map (fun w => w.id.text) = idTexts picked := by
  simp [idTexts, Function.comp_def, Workflow.bare]

/-- Joined rows of entries read as what is stored of their workflows, unless an instant
of one of them is not legible or they are too many. -/
theorem Holds.readWorkflows_eq_ok_iff (holds : s.Holds entries) (intact : s.Intact)
    (within : ∀ e ∈ picked, e ∈ entries)
    (distinct : (picked.map fun e => e.workflow.id).Nodup) {found : List Workflow} :
    s.readWorkflows (picked.map Entry.joined) = .ok found ↔
      (∀ e ∈ picked, AllLegible e.workflow.instants) ∧ picked.length ≤ valueLimit ∧
        picked.map (fun e => e.workflow.stored) = found := by
  have instants : (∀ e ∈ picked, AllLegible e.workflow.instants) ↔
      (∀ e ∈ picked, AllLegible e.workflow.ownInstants) ∧
        ∀ e ∈ picked, AllLegible (e.workflow.conditions.flatMap Condition.instants) := by
    simp only [Workflow.instants, allLegible_append, forall_and]
  rw [intact.readWorkflows_eq_ok_iff, instants]
  simp only [readBare_eq_ok_iff, holds.conditionsOf_eq_ok_iff intact]
  constructor
  · rintro ⟨workflows, ⟨own, rfl⟩, conditions, ⟨few, legible, rfl⟩, attached⟩
    rw [idTexts_bare] at few legible attached
    rw [length_idTexts] at few
    rw [holds.attach_placedFor within distinct] at attached
    exact ⟨⟨own, (holds.placedFor_legible_iff within).mp legible⟩, few, attached⟩
  · rintro ⟨⟨own, legible⟩, few, rfl⟩
    refine ⟨_, ⟨own, rfl⟩, _, ⟨?_, ?_, rfl⟩, ?_⟩
    · rw [idTexts_bare, length_idTexts]
      exact few
    · rw [idTexts_bare]
      exact (holds.placedFor_legible_iff within).mpr legible
    · rw [idTexts_bare]
      exact holds.attach_placedFor within distinct

/-- What a query answers that is given a value for each of the workflows that were found. -/
def inOneQuery (found : List Workflow) : Except StoreError (List Workflow) := do
  takeValues found.length
  return found

theorem inOneQuery_of_le {found : List Workflow} (few : found.length ≤ valueLimit) :
    inOneQuery found = .ok found := by
  rw [inOneQuery, takeValues_of_le few, ok_bind]
  rfl

theorem inOneQuery_of_lt {found : List Workflow} (many : valueLimit < found.length) :
    inOneQuery found = .error (.query .tooManyValues) := by
  rw [inOneQuery, takeValues_of_lt many]
  rfl

/-- When all instants are legible, only the number of the workflows can be in the way. -/
theorem Holds.readWorkflows_eq (holds : s.Holds entries) (intact : s.Intact)
    (within : ∀ e ∈ picked, e ∈ entries) (distinct : (picked.map fun e => e.workflow.id).Nodup)
    (legible : ∀ e ∈ picked, AllLegible e.workflow.instants) :
    s.readWorkflows (picked.map Entry.joined) =
      inOneQuery (picked.map fun e => e.workflow.stored) := by
  have asMany : (picked.map fun e => e.workflow.stored).length = picked.length :=
    List.length_map _
  rcases Nat.lt_or_ge valueLimit picked.length with many | few
  · have own : ∀ e ∈ picked, AllLegible e.workflow.ownInstants :=
      fun e picks => (allLegible_append.mp (legible e picks)).1
    have some : ¬(picked.map fun e => e.workflow.bare).isEmpty = true := by
      rw [List.isEmpty_map, List.isEmpty_iff_length_eq_zero]
      omega
    rw [inOneQuery_of_lt (asMany ▸ many), readWorkflows, readBare_eq_ok_iff.mpr ⟨own, rfl⟩, ok_bind,
      if_neg some, conditionsOf, idTexts_bare, length_idTexts, takeValues_of_lt many]
    rfl
  · rw [inOneQuery_of_le (asMany ▸ few)]
    exact (holds.readWorkflows_eq_ok_iff intact within distinct).mpr ⟨legible, few, rfl⟩

end

/-! ## The three queries -/

/-- Entries by the stored text of their creation time and then by identifier. -/
def oldestEntries (entries : List Entry) : List Entry :=
  oldestFirst (fun e => (e.workflow.createdAt.storedText, e.workflow.id.text)) entries

theorem mem_oldestEntries {e : Entry} : e ∈ oldestEntries entries ↔ e ∈ entries :=
  mem_oldestFirst

theorem oldestEntries_perm (entries : List Entry) : (oldestEntries entries).Perm entries :=
  oldestFirst_perm _ _

theorem oldestEntries_pairwise (entries : List Entry) :
    (oldestEntries entries).Pairwise fun a b =>
      textsLE (a.workflow.createdAt.storedText, a.workflow.id.text)
        (b.workflow.createdAt.storedText, b.workflow.id.text) :=
  oldestFirst_pairwise _ _

theorem sortJoined_map (entries : List Entry) :
    sortJoined (entries.map Entry.joined) = (oldestEntries entries).map Entry.joined := by
  rw [sortJoined, oldestFirst_map]
  rfl

/-- Reading the workflow with an identifier. -/
theorem Holds.findWorkflow_eq_ok_iff (holds : s.Holds entries) (intact : s.Intact) {id : Uuid}
    {found : Option Workflow} :
    s.findWorkflow id = .ok found ↔
      (∀ e ∈ entries, e.workflow.id = id → AllLegible e.workflow.instants) ∧
        (entries.find? fun e => e.workflow.id = id).map (fun e => e.workflow.stored) = found := by
  have rows : s.joined.filter (fun row => row.1.id == id.text) =
      (entries.filter fun e => e.workflow.id = id).map Entry.joined := by
    rw [holds.joined_eq, List.filter_map]
    exact congrArg (List.map Entry.joined) (List.filter_congr fun e _ => by simp)
  have distinct : ((entries.filter fun e => e.workflow.id = id).map fun e => e.workflow.id).Nodup :=
    holds.distinctIds.sublist (List.filter_sublist.map _)
  have within : ∀ e ∈ entries.filter (fun e => e.workflow.id = id), e ∈ entries :=
    fun e member => List.mem_of_mem_filter member
  have few : (entries.filter fun e => e.workflow.id = id).length ≤ valueLimit :=
    Nat.le_trans (length_filter_key_le_one holds.distinctIds id) (by decide)
  simp only [findWorkflow, intact.require, ok_bind, rows, bind_eq_ok_iff, pure_eq_ok_iff,
    holds.readWorkflows_eq_ok_iff intact within distinct, few, true_and]
  simp [List.head?_filter]

section

variable (onRow : JoinedRow → Bool) (onEntry : Entry → Bool)

theorem within_oldestEntries :
    ∀ e ∈ oldestEntries (entries.filter onEntry), e ∈ entries :=
  fun _ member => List.mem_of_mem_filter (mem_oldestEntries.mp member)

theorem Holds.distinct_oldestEntries (holds : s.Holds entries) :
    ((oldestEntries (entries.filter onEntry)).map fun e => e.workflow.id).Nodup :=
  ((oldestEntries_perm _).map _).nodup_iff.mpr
    (holds.distinctIds.sublist (List.filter_sublist.map _))

/-- The rows that a test picks are those of the entries that it picks. -/
theorem Holds.sortJoined_filter (holds : s.Holds entries)
    (agrees : ∀ e ∈ entries, onRow e.joined = onEntry e) :
    sortJoined (s.joined.filter onRow) =
      (oldestEntries (entries.filter onEntry)).map Entry.joined := by
  have rows : s.joined.filter onRow = (entries.filter onEntry).map Entry.joined := by
    rw [holds.joined_eq, List.filter_map]
    exact congrArg (List.map Entry.joined) (List.filter_congr agrees)
  rw [rows, sortJoined_map]

/-- Reading the workflows that a test on their rows picks. -/
theorem Holds.readPicked_eq_ok_iff (holds : s.Holds entries) (intact : s.Intact)
    (agrees : ∀ e ∈ entries, onRow e.joined = onEntry e) {found : List Workflow} :
    s.readWorkflows (sortJoined (s.joined.filter onRow)) = .ok found ↔
      (∀ e ∈ entries, onEntry e → AllLegible e.workflow.instants) ∧
        (entries.filter onEntry).length ≤ valueLimit ∧
          (oldestEntries (entries.filter onEntry)).map (fun e => e.workflow.stored) = found := by
  rw [holds.sortJoined_filter onRow onEntry agrees, holds.readWorkflows_eq_ok_iff intact
    (within_oldestEntries onEntry) (holds.distinct_oldestEntries onEntry),
    (oldestEntries_perm _).length_eq]
  simp [mem_oldestEntries]

/-- Reading them when all their instants are legible. -/
theorem Holds.readPicked_eq (holds : s.Holds entries) (intact : s.Intact)
    (agrees : ∀ e ∈ entries, onRow e.joined = onEntry e)
    (legible : ∀ e ∈ entries, onEntry e → AllLegible e.workflow.instants) :
    s.readWorkflows (sortJoined (s.joined.filter onRow)) =
      inOneQuery ((oldestEntries (entries.filter onEntry)).map fun e => e.workflow.stored) := by
  rw [holds.sortJoined_filter onRow onEntry agrees]
  apply holds.readWorkflows_eq intact (within_oldestEntries onEntry)
    (holds.distinct_oldestEntries onEntry)
  intro e member
  obtain ⟨memberE, picks⟩ := List.mem_filter.mp (mem_oldestEntries.mp member)
  exact legible e memberE picks

end

/-- Reading the workflows of a company. -/
theorem Holds.workflowsOf_eq_ok_iff (holds : s.Holds entries) (intact : s.Intact) {company : Uuid}
    {found : List Workflow} :
    s.workflowsOf company = .ok found ↔
      (∀ e ∈ entries, e.workflow.companyId = company → AllLegible e.workflow.instants) ∧
        (entries.filter fun e => e.workflow.companyId = company).length ≤ valueLimit ∧
          (oldestEntries (entries.filter fun e => e.workflow.companyId = company)).map
            (fun e => e.workflow.stored) = found := by
  simp only [workflowsOf, intact.require, ok_bind]
  rw [holds.readPicked_eq_ok_iff _ (fun e => decide (e.workflow.companyId = company))
    intact fun e _ => by simp]
  simp only [decide_eq_true_eq]

/-- Reading them when all their instants are legible. -/
theorem Holds.workflowsOf_eq_of_legible (holds : s.Holds entries) (intact : s.Intact)
    {company : Uuid}
    (legible : ∀ e ∈ entries, e.workflow.companyId = company → AllLegible e.workflow.instants) :
    s.workflowsOf company =
      inOneQuery ((oldestEntries (entries.filter fun e => e.workflow.companyId = company)).map
        fun e => e.workflow.stored) := by
  simp only [workflowsOf, intact.require, ok_bind]
  apply holds.readPicked_eq _ (fun e => decide (e.workflow.companyId = company))
    intact fun e _ => by simp
  exact fun e member own => legible e member (of_decide_eq_true own)

/-- Reading the workflows of a company for a trigger. -/
theorem Holds.workflowsFor_eq_ok_iff (holds : s.Holds entries) (intact : s.Intact)
    {company : Uuid} {trigger : Trigger} {found : List Workflow} :
    s.workflowsFor company trigger = .ok found ↔
      (∀ e ∈ entries, e.workflow.companyId = company ∧ e.workflow.trigger = trigger →
        AllLegible e.workflow.instants) ∧
        (entries.filter fun e =>
          e.workflow.companyId = company ∧ e.workflow.trigger = trigger).length ≤ valueLimit ∧
          (oldestEntries (entries.filter fun e =>
            e.workflow.companyId = company ∧ e.workflow.trigger = trigger)).map
              (fun e => e.workflow.stored) = found := by
  simp only [workflowsFor, intact.require, ok_bind]
  rw [holds.readPicked_eq_ok_iff _
    (fun e => decide (e.workflow.companyId = company ∧ e.workflow.trigger = trigger))
    intact fun e _ => by simp]
  simp only [decide_eq_true_eq]

/-- Reading them when all their instants are legible. -/
theorem Holds.workflowsFor_eq_of_legible (holds : s.Holds entries) (intact : s.Intact)
    {company : Uuid} {trigger : Trigger}
    (legible : ∀ e ∈ entries, e.workflow.companyId = company ∧ e.workflow.trigger = trigger →
      AllLegible e.workflow.instants) :
    s.workflowsFor company trigger =
      inOneQuery ((oldestEntries (entries.filter fun e =>
        e.workflow.companyId = company ∧ e.workflow.trigger = trigger)).map
          fun e => e.workflow.stored) := by
  simp only [workflowsFor, intact.require, ok_bind]
  apply holds.readPicked_eq _
    (fun e => decide (e.workflow.companyId = company ∧ e.workflow.trigger = trigger))
    intact fun e _ => by simp
  exact fun e member own => legible e member (of_decide_eq_true own)

end Store

end Caretaker
