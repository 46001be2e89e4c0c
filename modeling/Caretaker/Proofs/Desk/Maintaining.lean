import Caretaker.Proofs.Desk.Run

/-!
# Jobs that maintain an invariant

An invariant is anything that is said of a desk.  A job maintains it when it holds after
the job as soon as it held before, however the job ended.  What a job promises of its
result matters as well, since a later part of the job may rely on it.
-/

namespace Caretaker

/-- The invariant holds after the job if it held before, and what the job results in has a
property. -/
def Job.Maintains {ε α : Type} (inv : Desk → Prop) (job : Job ε α) (promise : α → Prop) : Prop :=
  ∀ desk : Desk, inv desk →
    inv (job.run desk).2 ∧ ∀ value, (job.run desk).1 = .done value → promise value

namespace Job.Maintains

variable {ε δ α β : Type} {inv : Desk → Prop} {promise : α → Prop} {further : β → Prop}

/-! ## Composition -/

theorem pure {value : α} (kept : promise value) :
    Maintains inv (Pure.pure value : Job ε α) promise := by
  intro desk holds
  refine ⟨holds, ?_⟩
  rintro _ ⟨⟩
  exact kept

theorem fail (error : ε) : Maintains inv (Job.fail error : Job ε α) promise := by
  intro desk holds
  refine ⟨holds, ?_⟩
  rintro _ ⟨⟩

/-- Without a promise, only the desk that is left behind counts. -/
theorem of_left {job : Job ε α} (left : ∀ desk, inv desk → inv (job.run desk).2) :
    Maintains inv job fun _ => True :=
  fun desk holds => ⟨left desk holds, fun _ _ => trivial⟩

/-- What is promised may be weakened. -/
theorem mono {job : Job ε α} {weaker : α → Prop} (maintains : Maintains inv job promise)
    (implies : ∀ value, promise value → weaker value) : Maintains inv job weaker :=
  fun desk holds => ⟨(maintains desk holds).1, fun value done =>
    implies value ((maintains desk holds).2 value done)⟩

theorem bind {first : Job ε α} {next : α → Job ε β} (before : Maintains inv first promise)
    (after : ∀ value, promise value → Maintains inv (next value) further) :
    Maintains inv (first >>= next) further := by
  intro desk holds
  obtain ⟨holdsThen, kept⟩ := before desk holds
  rw [run_bind]
  revert holdsThen kept
  rcases first.run desk with ⟨value | error | _, desk'⟩
  · exact fun holdsThen kept => after value (kept value rfl) desk' holdsThen
  · exact fun holdsThen _ => ⟨holdsThen, by rintro _ ⟨⟩⟩
  · exact fun holdsThen _ => ⟨holdsThen, by rintro _ ⟨⟩⟩

/-- A part of a job that is only done in one case. -/
theorem perhaps {condition : Prop} [Decidable condition] {job : Job ε Unit} {rest : Job ε β}
    (maintains : condition → Maintains inv job fun _ => True)
    (maintainsRest : Maintains inv rest further) :
    Maintains inv (if condition then job >>= fun _ => rest else rest) further := by
  split
  · rename_i met
    exact bind (maintains met) fun _ _ => maintainsRest
  · exact maintainsRest

theorem mapError {job : Job ε α} (f : ε → δ) (maintains : Maintains inv job promise) :
    Maintains inv (job.mapError f) promise := by
  intro desk holds
  obtain ⟨holdsThen, kept⟩ := maintains desk holds
  rw [run_mapError]
  revert holdsThen kept
  rcases job.run desk with ⟨value | error | _, desk'⟩
  · exact fun holdsThen kept => ⟨holdsThen, by rintro _ ⟨⟩; exact kept value rfl⟩
  · exact fun holdsThen _ => ⟨holdsThen, by rintro _ ⟨⟩⟩
  · exact fun holdsThen _ => ⟨holdsThen, by rintro _ ⟨⟩⟩

/-- A result that was taken as a value is promised as far as there was one. -/
theorem attempt {job : Job ε α} (maintains : Maintains inv job promise) :
    Maintains inv (job.attempt : Job δ (Except ε α)) fun result =>
      ∀ value, result = .ok value → promise value := by
  intro desk holds
  obtain ⟨holdsThen, kept⟩ := maintains desk holds
  rw [run_attempt]
  revert holdsThen kept
  rcases job.run desk with ⟨value | error | _, desk'⟩
  · exact fun holdsThen kept => ⟨holdsThen, by rintro _ ⟨⟩ _ ⟨⟩; exact kept value rfl⟩
  · exact fun holdsThen _ => ⟨holdsThen, by rintro _ ⟨⟩ _ ⟨⟩⟩
  · exact fun holdsThen _ => ⟨holdsThen, by rintro _ ⟨⟩⟩

/-- What is supervised may have ended in any way, and promises what it promised if it had a
result. -/
theorem supervise {job : Job ε α} (maintains : Maintains inv job promise) :
    Maintains inv (job.supervise : Job δ (Outcome ε α)) fun outcome =>
      ∀ value, outcome = .done value → promise value := by
  intro desk holds
  refine ⟨(maintains desk holds).1, ?_⟩
  rintro _ ⟨⟩
  exact (maintains desk holds).2

theorem orFail {value : Option α} (error : ε) (kept : ∀ found, value = some found → promise found) :
    Maintains inv (Job.orFail error value) promise := by
  cases value with
  | none => exact fail error
  | some found => exact pure (kept found rfl)

/-! ## Access to the store -/

/-- A channel that is out of order leaves the desk alone. -/
theorem through {channel : Channel} {job : Job StoreError α}
    (maintains : Maintains inv job promise) : Maintains inv (Job.through channel job) promise := by
  intro desk holds
  unfold Job.through
  dsimp only
  split
  · exact ⟨holds, by rintro _ ⟨⟩⟩
  · exact ⟨holds, by rintro _ ⟨⟩⟩
  · exact maintains desk holds

theorem read {f : Store → Except StoreError α}
    (kept : ∀ desk value, inv desk → f desk.store = .ok value → promise value) :
    Maintains inv (Job.read f) promise := by
  intro desk holds
  rw [run_read]
  cases answer : f desk.store with
  | ok value =>
      refine ⟨holds, ?_⟩
      rintro _ ⟨⟩
      exact kept desk value holds answer
  | error error => exact ⟨holds, by rintro _ ⟨⟩⟩

theorem write {f : Store → Except StoreError Store}
    (steps : ∀ desk store, inv desk → f desk.store = .ok store → inv { desk with store }) :
    Maintains inv (Job.write f) fun _ => True := by
  intro desk holds
  rw [run_write]
  cases answer : f desk.store with
  | ok store => exact ⟨steps desk store holds answer, fun _ _ => trivial⟩
  | error error => exact ⟨holds, fun _ _ => trivial⟩

theorem change {f : Store → Except StoreError (α × Store)}
    (steps : ∀ desk value store, inv desk → f desk.store = .ok (value, store) →
      inv { desk with store }) :
    Maintains inv (Job.change f) fun _ => True := by
  intro desk holds
  rw [run_change]
  cases answer : f desk.store with
  | ok result => exact ⟨steps desk result.1 result.2 holds answer, fun _ _ => trivial⟩
  | error error => exact ⟨holds, fun _ _ => trivial⟩

end Job.Maintains

end Caretaker
