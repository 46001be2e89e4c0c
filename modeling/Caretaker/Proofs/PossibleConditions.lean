import Caretaker.Admin.Workflows
import Caretaker.Proofs.Narrowing

/-!
# Possible conditions

A condition is possible when some work order meets it.  Nothing but its two ranges can
stand in the way: every other matcher wants one value, and a work order may have any.  So a
look at the ranges decides whether a condition is possible, and it is possible for work
orders exactly when it is possible for requests.

In a list of conditions, the first impossible one is reported with its position and with
the range that no instant lies in.
-/

namespace Caretaker

open Calendar Text

/-! ## Wanting what is there -/

theorem agrees_self {α : Type} [BEq α] [ReflBEq α] (wanted : Option α) :
    agrees wanted wanted = true := by
  cases wanted <;> simp [agrees]

/-- An attribute that is always there can have whatever value is wanted. -/
theorem agrees_getD {α : Type} [BEq α] [ReflBEq α] (wanted : Option α) (otherwise : α) :
    agrees wanted (some (wanted.getD otherwise)) = true := by
  cases wanted <;> simp [agrees]

namespace Condition

/-! ## Ranges -/

theorem reversed_eq_false_of_within {first last at_ : Option Instant}
    (inside : within first last at_ = true) : reversed first last = false := by
  obtain ⟨started, notOver⟩ := within_iff.mp inside
  cases first with
  | none => rfl
  | some a =>
      cases last with
      | none => rfl
      | some b =>
          obtain ⟨t, there, after⟩ := started a rfl
          obtain ⟨u, there', before⟩ := notOver b rfl
          obtain rfl : t = u := Option.some.inj (there.symm.trans there')
          have ordered : a.rank ≤ b.rank := Int.le_trans after before
          exact decide_eq_false (Int.not_lt.mpr ordered)

theorem not_lt_of_not_reversed {a b : Instant} (possible : reversed (some a) (some b) = false) :
    a ≤ b :=
  Int.not_lt.mp (of_decide_eq_false possible)

/-- A range that does not end before it starts has one of its own bounds in it. -/
theorem within_or {first last : Option Instant} (possible : reversed first last = false) :
    within first last (first.or last) = true := by
  rw [within_iff]
  cases first with
  | none =>
      cases last with
      | none => simp
      | some b =>
          have same : b ≤ b := Int.le_refl b.rank
          simpa using same
  | some a =>
      cases last with
      | none =>
          have same : a ≤ a := Int.le_refl a.rank
          simpa using same
      | some b =>
          have same : a ≤ a := Int.le_refl a.rank
          simpa using ⟨same, not_lt_of_not_reversed possible⟩

/-- A creation time is always there, also where no bound suggests one. -/
theorem within_getD {first last : Option Instant} (possible : reversed first last = false)
    (otherwise : Instant) :
    within first last (some ((first.or last).getD otherwise)) = true := by
  have inside := within_or possible
  cases suggested : first.or last with
  | some t =>
      rw [suggested] at inside
      exact inside
  | none =>
      obtain ⟨rfl, rfl⟩ := Option.or_eq_none_iff.mp suggested
      rfl

/-! ## The two checks -/

variable {c : Condition}

theorem checkRanges_eq_ok_iff :
    c.checkRanges = .ok () ↔ reversed c.createdTimeStart c.createdTimeEnd = false ∧
      reversed c.startDate c.endDate = false := by
  cases created : reversed c.createdTimeStart c.createdTimeEnd <;>
    cases due : reversed c.startDate c.endDate <;> simp [checkRanges, created, due]

/-- Blank texts are in no range. -/
theorem checkRanges_normalized (c : Condition) : c.normalized.checkRanges = c.checkRanges :=
  rfl

theorem checkRanges_of_holdsForTicket {t : Ticket} (met : c.holdsForTicket t = true) :
    c.checkRanges = .ok () := by
  simp only [holdsForTicket, Bool.and_eq_true] at met
  obtain ⟨⟨_, creation⟩, due⟩ := met
  exact checkRanges_eq_ok_iff.mpr
    ⟨reversed_eq_false_of_within creation, reversed_eq_false_of_within due⟩

/-- A ticket made to the measure of a condition: it has every value that is wanted. -/
def exemplar (c : Condition) : Ticket :=
  { Ticket.fresh default default ((c.createdTimeStart.or c.createdTimeEnd).getD default) "" with
    priority := c.priority.getD .none
    status := c.workOrderStatus.getD .opened
    assetId := c.asset
    locationId := c.location
    userId := c.user
    teamId := c.team
    categoryId := c.category
    dueDate := c.startDate.or c.endDate }

theorem holdsForTicket_exemplar (checked : c.checkRanges = .ok ()) :
    c.holdsForTicket c.exemplar = true := by
  obtain ⟨created, due⟩ := checkRanges_eq_ok_iff.mp checked
  have creation : c.admitsCreation c.exemplar.createdAt = true := within_getD created default
  have dueDate : within c.startDate c.endDate c.exemplar.dueDate = true := within_or due
  have priority : agrees c.priority (some c.exemplar.priority) = true := agrees_getD c.priority .none
  have status : agrees c.workOrderStatus (some c.exemplar.status) = true :=
    agrees_getD c.workOrderStatus .opened
  simp only [holdsForTicket, creation, dueDate, priority, status, Bool.and_true]
  -- The other attributes may be absent, just as the matchers for them.
  simp [exemplar, agrees_self]

/-! ## Possible conditions -/

/-- Some work order meets the condition. -/
def Possible (c : Condition) : Prop :=
  ∃ order : WorkOrder, c.holds (.workOrder order) = true

theorem checkRanges_eq_ok_iff_possible : c.checkRanges = .ok () ↔ c.Possible := by
  constructor
  · intro checked
    exact ⟨{ c.exemplar with number := none }, holdsForTicket_exemplar checked⟩
  · rintro ⟨order, met⟩
    exact checkRanges_of_holdsForTicket met

/-- Requests are tickets just as work orders are. -/
theorem checkRanges_eq_ok_iff_request :
    c.checkRanges = .ok () ↔ ∃ request : Request, c.holds (.request request) = true := by
  constructor
  · intro checked
    exact ⟨⟨c.exemplar⟩, holdsForTicket_exemplar checked⟩
  · rintro ⟨request, met⟩
    exact checkRanges_of_holdsForTicket met

/-- What an error tells about the condition that it is reported for: no instant lies in
the range of creation times, or some does, but none, and no absence of one, in that of due
dates. -/
def RangeError.Explains : RangeError → Condition → Prop
  | .creation, c => ∀ t, c.admitsCreation t = false
  | .dueDate, c => (∃ t, c.admitsCreation t = true) ∧ ∀ t, within c.startDate c.endDate t = false

theorem within_eq_false_of_reversed {first last : Option Instant}
    (impossible : reversed first last = true) (at_ : Option Instant) :
    within first last at_ = false := by
  rw [← Bool.not_eq_true]
  intro inside
  rw [reversed_eq_false_of_within inside] at impossible
  contradiction

theorem explains_of_checkRanges {error : RangeError} (refused : c.checkRanges = .error error) :
    error.Explains c := by
  unfold checkRanges at refused
  cases created : reversed c.createdTimeStart c.createdTimeEnd with
  | true =>
      simp only [created, if_true] at refused
      cases refused
      exact fun t => within_eq_false_of_reversed created (some t)
  | false =>
      cases due : reversed c.startDate c.endDate with
      | true =>
          simp only [created, due, if_true, Bool.false_eq_true, if_false] at refused
          cases refused
          exact ⟨⟨_, within_getD created default⟩, within_eq_false_of_reversed due⟩
      | false =>
          simp only [created, due, Bool.false_eq_true, if_false] at refused
          contradiction

end Condition

/-! ## The first impossible condition of a list -/

/-- The first condition of the list that is impossible stands at the position, for the
reason that the error gives. -/
structure FirstImpossible (conditions : List Condition) (position : Nat)
    (error : Condition.RangeError) : Prop where
  impossible : ∃ c ∈ conditions[position]?, ¬c.Possible ∧ error.Explains c
  earlier : ∀ c ∈ conditions.take position, c.Possible

namespace FirstImpossible

variable {conditions : List Condition} {position : Nat} {error : Condition.RangeError}

theorem exists_mem (first : FirstImpossible conditions position error) :
    ∃ c ∈ conditions, ¬c.Possible := by
  obtain ⟨c, there, impossible, -⟩ := first.impossible
  exact ⟨c, List.mem_of_getElem? there, impossible⟩

theorem cons {c : Condition} (possible : c.Possible)
    (first : FirstImpossible conditions position error) :
    FirstImpossible (c :: conditions) (position + 1) error where
  impossible := first.impossible
  earlier := by
    rw [List.take_succ_cons, List.forall_mem_cons]
    exact ⟨possible, first.earlier⟩

end FirstImpossible

namespace Workflows

/-- The search stops at the first impossible condition, or finds that there is none. -/
theorem impossibleFrom_cases (offset : Nat) (conditions : List Condition) :
    (impossibleFrom offset conditions = none ∧ ∀ c ∈ conditions, c.Possible) ∨
      ∃ position error, impossibleFrom offset conditions = some (offset + position, error) ∧
        FirstImpossible conditions position error := by
  induction conditions generalizing offset with
  | nil => simp [impossibleFrom]
  | cons c rest ih =>
      cases checked : c.checkRanges with
      | error error =>
          have impossible : ¬c.Possible := by
            rw [← Condition.checkRanges_eq_ok_iff_possible, checked]
            simp
          refine .inr ⟨0, error, by simp [impossibleFrom, checked], ?_, by simp⟩
          exact ⟨c, rfl, impossible, Condition.explains_of_checkRanges checked⟩
      | ok _ =>
          have possible : c.Possible := Condition.checkRanges_eq_ok_iff_possible.mp checked
          have onward : impossibleFrom offset (c :: rest) = impossibleFrom (offset + 1) rest := by
            simp [impossibleFrom, checked]
          rw [onward]
          rcases ih (offset + 1) with ⟨nothing, all⟩ | ⟨position, error, found, first⟩
          · exact .inl ⟨nothing, List.forall_mem_cons.mpr ⟨possible, all⟩⟩
          · refine .inr ⟨position + 1, error, ?_, first.cons possible⟩
            rw [found, Nat.add_assoc, Nat.add_comm 1 position]

/-- Removing blank texts first makes no difference to what is found. -/
theorem impossibleFrom_normalized (offset : Nat) (conditions : List Condition) :
    impossibleFrom offset (conditions.map Condition.normalized) =
      impossibleFrom offset conditions := by
  induction conditions generalizing offset with
  | nil => rfl
  | cons c rest ih =>
      rw [List.map_cons, impossibleFrom, impossibleFrom, Condition.checkRanges_normalized, ih]

end Workflows

end Caretaker
