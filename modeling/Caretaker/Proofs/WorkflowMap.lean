import Caretaker.Store.Error
import Caretaker.Workflow.Basic
import Mathlib.Data.List.Induction
import Mathlib.Logic.Function.Basic

/-!
# A map of workflows

The workflows of a store, seen from outside: a map from identifiers to workflows, with
three kinds of calls that write to it.  Nothing in here knows of tables.

What the map has under an identifier follows from the calls alone.  It is the workflow
that was created there last, unless it was deleted since, and of that workflow only the
flag and the time of change are not as created: these are from the last batch since then
that names it.
-/

namespace Caretaker

open Calendar

/-- A call that writes to the workflows.  It comes with what it draws: identifiers for rows,
or the time of day. -/
inductive WorkflowCall where
  | create (fresh : Nat → Uuid) (w : Workflow)
  | setEnabled (ids : List Uuid) (enabled : Bool) (now : Instant)
  | delete (id : Uuid)

/-- What a call answers. -/
inductive WorkflowAnswer where
  | created
  | switched
  | deleted (existed : Bool)
  deriving DecidableEq

/-- Make calls one after the other, and gather the answers. -/
def performAll {σ : Type} (perform : σ → WorkflowCall → Except StoreError WorkflowAnswer × σ)
    (state : σ) : List WorkflowCall → List (Except StoreError WorkflowAnswer) × σ
  | [] => ([], state)
  | call :: rest =>
      let (answer, next) := perform state call
      let (answers, last) := performAll perform next rest
      (answer :: answers, last)

section

variable {σ : Type} {perform : σ → WorkflowCall → Except StoreError WorkflowAnswer × σ}

theorem performAll_append (state : σ) (first second : List WorkflowCall) :
    (performAll perform state (first ++ second)).2 =
      (performAll perform (performAll perform state first).2 second).2 := by
  induction first generalizing state with
  | nil => rfl
  | cons call rest ih => exact ih _

theorem performAll_concat (state : σ) (calls : List WorkflowCall) (last : WorkflowCall) :
    (performAll perform state (calls ++ [last])).2 =
      (perform (performAll perform state calls).2 last).2 :=
  performAll_append state calls [last]

end

/-- The workflow after it was switched. -/
def Workflow.switched (w : Workflow) (enabled : Bool) (now : Instant) : Workflow :=
  { w with enabled, updatedAt := now }

/-- A map from identifiers to workflows. -/
abbrev WorkflowMap : Type :=
  Uuid → Option Workflow

namespace WorkflowMap

/-- The map without any workflow. -/
def empty : WorkflowMap :=
  fun _ => none

/-- What a call is answered. -/
def answer (m : WorkflowMap) : WorkflowCall → Except StoreError WorkflowAnswer
  | .create _ w => if (m w.id).isSome then .error (.conflict (.workflow w.id.text)) else .ok .created
  | .setEnabled _ _ _ => .ok .switched
  | .delete id => .ok (.deleted (m id).isSome)

/-- What a call leaves behind. -/
def write (m : WorkflowMap) : WorkflowCall → WorkflowMap
  | .create _ w => if (m w.id).isSome then m else Function.update m w.id (some w)
  | .setEnabled ids enabled now =>
      fun id => if id ∈ ids then (m id).map fun w => w.switched enabled now else m id
  | .delete id => Function.update m id none

/-- Make one call. -/
def perform (m : WorkflowMap) (call : WorkflowCall) :
    Except StoreError WorkflowAnswer × WorkflowMap :=
  (m.answer call, m.write call)

/-- The map after some calls, starting without any workflow. -/
def after (calls : List WorkflowCall) : WorkflowMap :=
  (performAll perform empty calls).2

end WorkflowMap

/-- What the last batch that names the workflow wrote, if there was one. -/
def lastSwitch (id : Uuid) : List WorkflowCall → Option (Bool × Instant)
  | [] => none
  | .setEnabled ids enabled now :: rest =>
      (lastSwitch id rest).or (if id ∈ ids then some (enabled, now) else none)
  | .create _ _ :: rest => lastSwitch id rest
  | .delete _ :: rest => lastSwitch id rest

/-- The workflow with what the last batch wrote, if there was one. -/
def Workflow.switchedBy (w : Workflow) : Option (Bool × Instant) → Workflow
  | none => w
  | some (enabled, now) => w.switched enabled now

theorem lastSwitch_append (id : Uuid) (first second : List WorkflowCall) :
    lastSwitch id (first ++ second) = (lastSwitch id second).or (lastSwitch id first) := by
  induction first with
  | nil => simp [lastSwitch]
  | cons call rest ih =>
      cases call with
      | create fresh w => exact ih
      | delete other => exact ih
      | setEnabled ids enabled now =>
          rw [List.cons_append, lastSwitch, lastSwitch, ih, Option.or_assoc]

namespace WorkflowMap

variable {m : WorkflowMap} {id : Uuid} {w : Workflow}

/-! ## One call and one workflow -/

/-- A workflow stays in the map until it is deleted, and only changes by batches that
name it. -/
theorem write_of_some (entry : m id = some w) {call : WorkflowCall} (kept : call ≠ .delete id) :
    m.write call id = some (w.switchedBy (lastSwitch id [call])) := by
  cases call with
  | create fresh new =>
      rw [write]
      split
      · exact entry
      · rename_i isNew
        have differs : id ≠ new.id := by
          rintro rfl
          rw [entry] at isNew
          exact isNew rfl
        rw [Function.update_of_ne differs, entry]
        rfl
  | setEnabled ids enabled now =>
      simp only [write, entry, lastSwitch, Option.none_or]
      split <;> rfl
  | delete other =>
      have differs : id ≠ other := by
        rintro rfl
        exact kept rfl
      rw [write, Function.update_of_ne differs, entry]
      rfl

/-- A workflow only comes into the map by being created. -/
theorem write_of_none (absent : m id = none) {call : WorkflowCall}
    (entry : m.write call id = some w) : ∃ fresh, call = .create fresh w ∧ w.id = id := by
  cases call with
  | create fresh new =>
      rw [write] at entry
      split at entry
      · rw [absent] at entry
        cases entry
      · by_cases same : id = new.id
        · rw [same, Function.update_self] at entry
          cases entry
          exact ⟨fresh, rfl, same.symm⟩
        · rw [Function.update_of_ne same, absent] at entry
          cases entry
  | setEnabled ids enabled now => simp [write, absent] at entry
  | delete other =>
      rw [write] at entry
      by_cases same : id = other
      · rw [same, Function.update_self] at entry
        cases entry
      · rw [Function.update_of_ne same, absent] at entry
        cases entry

theorem write_delete (m : WorkflowMap) (id : Uuid) : m.write (.delete id) id = none := by
  rw [write, Function.update_self]

theorem write_create (absent : m w.id = none) (fresh : Nat → Uuid) :
    m.write (.create fresh w) w.id = some w := by
  have isNew : ¬(m w.id).isSome = true := by
    rw [absent]
    exact Bool.false_ne_true
  rw [write, if_neg isNew, Function.update_self]

/-! ## All calls since a workflow was created -/

theorem switchedBy_or (w : Workflow) (last earlier : Option (Bool × Instant)) :
    (w.switchedBy earlier).switchedBy last = w.switchedBy (last.or earlier) := by
  rcases last with _ | ⟨enabled, now⟩
  · rfl
  · rcases earlier with _ | ⟨enabled', now'⟩ <;> rfl

/-- Since it was created, a workflow has been switched by the last batch that names it. -/
theorem performAll_of_some (entry : m id = some w) {calls : List WorkflowCall}
    (kept : ∀ call ∈ calls, call ≠ .delete id) :
    (performAll perform m calls).2 id = some (w.switchedBy (lastSwitch id calls)) := by
  induction calls generalizing m w with
  | nil => exact entry
  | cons call rest ih =>
      rw [List.forall_mem_cons] at kept
      have next := ih (write_of_some entry kept.1) kept.2
      rw [switchedBy_or, ← lastSwitch_append] at next
      exact next

/-- How a workflow has come to stand in the map: it was created where nothing stood, it was
not deleted since, and the last batch that names it has switched it. -/
def Origin (calls : List WorkflowCall) (id : Uuid) (w : Workflow) : Prop :=
  ∃ before fresh new since, calls = before ++ .create fresh new :: since ∧ new.id = id ∧
    after before id = none ∧ (∀ call ∈ since, call ≠ .delete id) ∧
      w = new.switchedBy (lastSwitch id since)

theorem Origin.concat {calls : List WorkflowCall} (origin : Origin calls id w) {last : WorkflowCall}
    (kept : last ≠ .delete id) :
    Origin (calls ++ [last]) id (w.switchedBy (lastSwitch id [last])) := by
  obtain ⟨before, fresh, new, since, rfl, named, absent, keptSince, rfl⟩ := origin
  refine ⟨before, fresh, new, since ++ [last], ?_, named, absent, ?_, ?_⟩
  · rw [List.append_assoc, List.cons_append]
  · intro call member
    rcases List.mem_append.mp member with earlier | latest
    · exact keptSince call earlier
    · rw [List.mem_singleton.mp latest]
      exact kept
  · rw [switchedBy_or, ← lastSwitch_append]

theorem after_concat (calls : List WorkflowCall) (last : WorkflowCall) :
    after (calls ++ [last]) = (after calls).write last :=
  performAll_concat empty calls last

theorem origin_of_after {calls : List WorkflowCall} (entry : after calls id = some w) :
    Origin calls id w := by
  induction calls using List.reverseRecOn generalizing w with
  | nil => cases entry
  | append_singleton calls last ih =>
      rw [after_concat] at entry
      cases earlier : after calls id with
      | none =>
          obtain ⟨fresh, rfl, named⟩ := write_of_none earlier entry
          exact ⟨calls, fresh, w, [], rfl, named, earlier, by simp, rfl⟩
      | some old =>
          have kept : last ≠ .delete id := by
            rintro rfl
            rw [write_delete] at entry
            cases entry
          rw [write_of_some earlier kept, Option.some.injEq] at entry
          rw [← entry]
          exact (ih earlier).concat kept

/-- What the map has under an identifier, in terms of the calls alone. -/
theorem after_eq_some_iff {calls : List WorkflowCall} :
    after calls id = some w ↔ Origin calls id w := by
  constructor
  · exact origin_of_after
  · rintro ⟨before, fresh, new, since, rfl, rfl, absent, kept, rfl⟩
    rw [after, performAll_append]
    exact performAll_of_some (write_create absent fresh) kept

end WorkflowMap

end Caretaker
