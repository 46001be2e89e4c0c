import Caretaker.Proofs.Store.Assembly
import Caretaker.Proofs.Store.Seniority
import Caretaker.Workflow.Selection

/-!
# The winner among the candidates

A workflow is eligible for a subject when it is stored for the company, belongs to the
kind of subject, is switched on, and has conditions that all hold.  The winner is the
eligible workflow that was created first, where identifiers decide between equal times.

None of this speaks of texts or of queries.  The database orders candidates by the
stored texts of their creation times and then by the texts of their identifiers; both
orders agree with those of the values, so that the first candidate that matches is the
winner.
-/

namespace Caretaker

open Calendar

/-! ## Eligible workflows -/

namespace Store

/-- The workflow can act on a subject of the company. -/
structure Eligible (s : Store) (company : Uuid) (subject : Subject) (w : Workflow) : Prop where
  stored : s.findWorkflow w.id = .ok (some w)
  owned : w.companyId = company
  concerned : w.trigger = subject.trigger
  enabled : w.enabled = true
  met : ∀ c ∈ w.conditions, c.holds subject = true

/-- The workflow is eligible, and no eligible workflow comes before it. -/
structure Winner (s : Store) (company : Uuid) (subject : Subject) (w : Workflow) : Prop where
  eligible : s.Eligible company subject w
  first : ∀ other, s.Eligible company subject other → ¬other.createdBefore w

end Store

/-! ## The order of creation -/

namespace Workflow

theorem createdBefore_iff {a b : Workflow} :
    a.createdBefore b = true ↔ Older (a.createdAt, a.id) (b.createdAt, b.id) := by
  simp [createdBefore, Older]

theorem not_createdBefore_self (w : Workflow) : ¬w.createdBefore w := by
  rw [createdBefore_iff]
  exact not_older_self _

/-- Of two workflows with different identifiers, one was created before the other. -/
theorem id_eq_of_not_createdBefore {a b : Workflow} (notBefore : ¬a.createdBefore b)
    (notAfter : ¬b.createdBefore a) : a.id = b.id := by
  rw [createdBefore_iff] at notBefore notAfter
  exact congrArg Prod.snd (eq_of_not_older notBefore notAfter)

theorem matchesSubject_iff {w : Workflow} {subject : Subject} :
    w.matchesSubject subject = true ↔ ∀ c ∈ w.conditions, c.holds subject = true :=
  List.all_eq_true

end Workflow

namespace Store

/-- The database puts one workflow before or beside another exactly when the other was
not created before it. -/
theorem textsLE_storedText_iff {a b : Workflow} (legibleA : a.createdAt.Legible)
    (legibleB : b.createdAt.Legible) :
    textsLE (a.createdAt.storedText, a.id.text) (b.createdAt.storedText, b.id.text) = true ↔
      ¬b.createdBefore a := by
  rw [Workflow.createdBefore_iff]
  exact textsLE_iff_not_older (a := (a.createdAt, a.id)) (b := (b.createdAt, b.id)) legibleA legibleB

/-! ## The first match in a sorted list -/

/-- In a list in which nothing comes before what stands earlier, and in which only equal
values are level, the first value that a test picks is the least of those it picks. -/
theorem find?_eq_some_iff_first {α : Type} {before : α → α → Prop} {picked : α → Bool}
    {values : List α} (sorted : values.Pairwise fun a b => ¬before b a)
    (irreflexive : ∀ a, ¬before a a)
    (level : ∀ a ∈ values, ∀ b ∈ values, ¬before a b → ¬before b a → a = b) {value : α} :
    values.find? picked = some value ↔
      (value ∈ values ∧ picked value = true) ∧
        ∀ other ∈ values, picked other = true → ¬before other value := by
  have least {found : α} (located : values.find? picked = some found) :
      ∀ other ∈ values, picked other = true → ¬before other found := by
    obtain ⟨-, earlier, later, parts, passed⟩ := List.find?_eq_some_iff_append.mp located
    intro other member picks
    rw [parts, List.mem_append, List.mem_cons] at member
    rcases member with inEarlier | rfl | inLater
    · have skipped := passed other inEarlier
      rw [picks] at skipped
      contradiction
    · exact irreflexive other
    · rw [parts, List.pairwise_append] at sorted
      exact List.rel_of_pairwise_cons sorted.2.1 inLater
  constructor
  · intro located
    exact ⟨⟨List.mem_of_find?_eq_some located, List.find?_some located⟩, least located⟩
  · rintro ⟨⟨member, picks⟩, first⟩
    cases located : values.find? picked with
    | none => exact absurd picks (List.find?_eq_none.mp located value member)
    | some found =>
        have foundMember := List.mem_of_find?_eq_some located
        have foundPicked := List.find?_some located
        have notBefore := first found foundMember foundPicked
        have notAfter := least located value member picks
        rw [level found foundMember value member notBefore notAfter]

/-! ## Candidates -/

section

variable {s : Store} {entries : List Entry} {company : Uuid} {trigger : Trigger}
  {candidates : List Workflow}

/-- The candidates are the stored workflows of the company for the trigger. -/
theorem Holds.mem_candidates_iff (holds : s.Holds entries) (intact : s.Intact)
    (answer : s.workflowsFor company trigger = .ok candidates) {w : Workflow} :
    w ∈ candidates ↔
      s.findWorkflow w.id = .ok (some w) ∧ w.companyId = company ∧ w.trigger = trigger := by
  obtain ⟨legible, -, rfl⟩ := (holds.workflowsFor_eq_ok_iff intact).mp answer
  rw [holds.findWorkflow_eq_ok_iff intact, List.mem_map]
  simp only [mem_oldestEntries, List.mem_filter, decide_eq_true_eq, Option.map_eq_some_iff]
  constructor
  · rintro ⟨e, ⟨member, wanted⟩, rfl⟩
    have unique : ∀ other ∈ entries, other.workflow.id = e.workflow.id → other = e :=
      fun other memberOther same => holds.eq_of_id memberOther member same
    refine ⟨⟨?_, e, ?_, rfl⟩, wanted⟩
    · intro other memberOther same
      rw [unique other memberOther same]
      exact legible e member wanted
    · apply find?_eq_some_of_unique member (decide_eq_true rfl)
      exact fun other memberOther same => unique other memberOther (of_decide_eq_true same)
  · rintro ⟨⟨-, e, located, rfl⟩, wanted⟩
    exact ⟨e, ⟨List.mem_of_find?_eq_some located, wanted⟩, rfl⟩

/-- No candidate was created before a candidate that stands earlier. -/
theorem Holds.candidates_pairwise (holds : s.Holds entries) (intact : s.Intact)
    (answer : s.workflowsFor company trigger = .ok candidates) :
    candidates.Pairwise fun a b => ¬b.createdBefore a := by
  obtain ⟨legible, -, rfl⟩ := (holds.workflowsFor_eq_ok_iff intact).mp answer
  rw [List.pairwise_map]
  apply List.Pairwise.imp_of_mem _ (oldestFirst_pairwise _ _)
  intro a b memberA memberB ordered
  have created {e : Entry} (member : e ∈ oldestEntries (entries.filter fun e =>
      e.workflow.companyId = company ∧ e.workflow.trigger = trigger)) :
      e.workflow.createdAt.Legible := by
    rw [mem_oldestEntries, List.mem_filter, decide_eq_true_eq] at member
    exact legible e member.1 member.2 _ (List.mem_append_left _ (List.mem_cons_self ..))
  exact (textsLE_storedText_iff (created memberA) (created memberB)).mp ordered

end

section

variable {s : Store} {company : Uuid} {subject : Subject} {candidates : List Workflow}

/-- The eligible workflows are the candidates that match. -/
theorem Holds.eligible_iff {entries : List Entry} (holds : s.Holds entries) (intact : s.Intact)
    (answer : s.workflowsFor company subject.trigger = .ok candidates) {w : Workflow} :
    s.Eligible company subject w ↔
      w ∈ candidates ∧ (w.enabled && w.matchesSubject subject) = true := by
  rw [holds.mem_candidates_iff intact answer, Bool.and_eq_true, Workflow.matchesSubject_iff]
  constructor
  · rintro ⟨stored, owned, concerned, enabled, met⟩
    exact ⟨⟨stored, owned, concerned⟩, enabled, met⟩
  · rintro ⟨⟨stored, owned, concerned⟩, enabled, met⟩
    exact ⟨stored, owned, concerned, enabled, met⟩

/-- The first candidate that matches is the winner. -/
theorem Holds.firstMatch_eq_some_iff {entries : List Entry} (holds : s.Holds entries)
    (intact : s.Intact) (answer : s.workflowsFor company subject.trigger = .ok candidates)
    {w : Workflow} :
    Workflow.firstMatch candidates subject = some w ↔ s.Winner company subject w := by
  have level : ∀ a ∈ candidates, ∀ b ∈ candidates, ¬a.createdBefore b → ¬b.createdBefore a →
      a = b := by
    intro a memberA b memberB notBefore notAfter
    have storedA := ((holds.mem_candidates_iff intact answer).mp memberA).1
    have storedB := ((holds.mem_candidates_iff intact answer).mp memberB).1
    rw [Workflow.id_eq_of_not_createdBefore notBefore notAfter, storedB] at storedA
    exact (Option.some.inj (Except.ok.inj storedA)).symm
  have sorted := holds.candidates_pairwise intact answer
  rw [Workflow.firstMatch, find?_eq_some_iff_first sorted Workflow.not_createdBefore_self level,
    ← holds.eligible_iff intact answer]
  constructor
  · rintro ⟨eligible, first⟩
    constructor
    · exact eligible
    · intro other otherEligible
      obtain ⟨member, picked⟩ := (holds.eligible_iff intact answer).mp otherEligible
      exact first other member picked
  · rintro ⟨eligible, first⟩
    constructor
    · exact eligible
    · intro other member picked
      exact first other ((holds.eligible_iff intact answer).mpr ⟨member, picked⟩)

/-- Nothing matches exactly when no workflow is eligible. -/
theorem Holds.firstMatch_eq_none_iff {entries : List Entry} (holds : s.Holds entries)
    (intact : s.Intact) (answer : s.workflowsFor company subject.trigger = .ok candidates) :
    Workflow.firstMatch candidates subject = none ↔ ∀ w, ¬s.Eligible company subject w := by
  rw [Workflow.firstMatch, List.find?_eq_none]
  constructor
  · intro noMatch w eligible
    obtain ⟨member, picked⟩ := (holds.eligible_iff intact answer).mp eligible
    exact noMatch w member picked
  · intro noneEligible w member picked
    exact noneEligible w ((holds.eligible_iff intact answer).mpr ⟨member, picked⟩)

end

end Store

end Caretaker
