import Caretaker.Proofs.Store.Candidates

/-!
# The workflow that a restricted plan keeps

The survivor of a list of workflows is the one that was created first.  It does not
depend on the order of the list, as long as no two of its workflows have the same
identifier, and in a list that is sorted by creation it is the first.
-/

namespace Caretaker.Workflow

variable {w : Workflow} {workflows workflows' : List Workflow}

theorem not_createdBefore_trans {a b c : Workflow} (first : ¬a.createdBefore b)
    (second : ¬b.createdBefore c) : ¬a.createdBefore c := by
  rw [createdBefore_iff] at *
  exact fun older => first (older.of_not_older second)

/-- The one of two workflows that was created first. -/
def elder (best other : Workflow) : Workflow :=
  if other.createdBefore best then other else best

theorem elder_eq_or (best other : Workflow) : elder best other = best ∨ elder best other = other := by
  unfold elder
  split
  · exact .inr rfl
  · exact .inl rfl

theorem not_createdBefore_elder (best other : Workflow) :
    ¬best.createdBefore (elder best other) ∧ ¬other.createdBefore (elder best other) := by
  unfold elder
  split
  · rename_i before
    rw [createdBefore_iff] at before
    exact ⟨fun after => before.asymm (createdBefore_iff.mp after), not_createdBefore_self other⟩
  · rename_i notBefore
    exact ⟨not_createdBefore_self best, notBefore⟩

/-- The elder of many workflows is one of them, and none of them was created before it. -/
theorem foldl_elder (w : Workflow) (rest : List Workflow) :
    rest.foldl elder w ∈ w :: rest ∧
      ∀ other ∈ w :: rest, ¬other.createdBefore (rest.foldl elder w) := by
  induction rest generalizing w with
  | nil =>
      constructor
      · exact List.mem_singleton.mpr rfl
      · intro other member
        rw [List.mem_singleton.mp member]
        exact not_createdBefore_self w
  | cons next rest ih =>
      obtain ⟨member, first⟩ := ih (elder w next)
      rw [List.forall_mem_cons] at first
      rw [List.foldl_cons]
      constructor
      · rcases List.mem_cons.mp member with isElder | inRest
        · rw [isElder]
          rcases elder_eq_or w next with same | same <;> simp [same]
        · exact List.mem_cons_of_mem _ (List.mem_cons_of_mem _ inRest)
      · rw [List.forall_mem_cons, List.forall_mem_cons]
        have notBefore := not_createdBefore_elder w next
        exact ⟨not_createdBefore_trans notBefore.1 first.1,
          not_createdBefore_trans notBefore.2 first.1, first.2⟩

theorem survivor_cons (w : Workflow) (rest : List Workflow) :
    survivor (w :: rest) = some (rest.foldl elder w) :=
  rfl

theorem survivor_eq_none_iff : survivor workflows = none ↔ workflows = [] := by
  cases workflows with
  | nil => exact ⟨fun _ => rfl, fun _ => rfl⟩
  | cons w rest => simp [survivor_cons]

theorem mem_of_survivor (survives : survivor workflows = some w) : w ∈ workflows := by
  cases workflows with
  | nil => cases survives
  | cons first rest =>
      rw [survivor_cons, Option.some.injEq] at survives
      exact survives ▸ (foldl_elder first rest).1

theorem not_createdBefore_survivor (survives : survivor workflows = some w) :
    ∀ other ∈ workflows, ¬other.createdBefore w := by
  cases workflows with
  | nil => cases survives
  | cons first rest =>
      rw [survivor_cons, Option.some.injEq] at survives
      exact survives ▸ (foldl_elder first rest).2

/-- The survivor is the workflow that was created first. -/
theorem survivor_eq_some_iff (distinct : (workflows.map Workflow.id).Nodup) :
    survivor workflows = some w ↔
      w ∈ workflows ∧ ∀ other ∈ workflows, ¬other.createdBefore w := by
  constructor
  · intro survives
    exact ⟨mem_of_survivor survives, not_createdBefore_survivor survives⟩
  · rintro ⟨member, first⟩
    cases survives : survivor workflows with
    | none =>
        rw [survivor_eq_none_iff.mp survives] at member
        cases member
    | some found =>
        have memberFound := mem_of_survivor survives
        have level := id_eq_of_not_createdBefore (first found memberFound)
          (not_createdBefore_survivor survives w member)
        rw [List.inj_on_of_nodup_map distinct memberFound member level]

/-- The order of a list does not matter for its survivor. -/
theorem survivor_perm (distinct : (workflows.map Workflow.id).Nodup)
    (same : workflows.Perm workflows') : survivor workflows' = survivor workflows := by
  have distinct' : (workflows'.map Workflow.id).Nodup := (same.map _).nodup_iff.mp distinct
  apply Option.ext
  intro w
  rw [survivor_eq_some_iff distinct, survivor_eq_some_iff distinct', same.mem_iff]
  simp only [same.mem_iff]

/-- In a list that is sorted by creation the survivor is the first. -/
theorem survivor_eq_head? (sorted : workflows.Pairwise fun a b => a.createdBefore b) :
    survivor workflows = workflows.head? := by
  cases workflows with
  | nil => rfl
  | cons first rest =>
      obtain ⟨member, notBefore⟩ := foldl_elder first rest
      rw [survivor_cons, List.head?_cons]
      rcases List.mem_cons.mp member with isFirst | inRest
      · rw [isFirst]
      · have before := List.rel_of_pairwise_cons sorted inRest
        exact absurd before (notBefore first List.mem_cons_self)

end Caretaker.Workflow
