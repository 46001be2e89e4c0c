import Caretaker.Proofs.Desk.Maintaining

/-!
# Jobs that leave a part of the desk alone

A part is anything that can be read off a desk: a table, some of its rows, the limiter.
A job preserves a part when the part is the same after the job, however the job ended.
That is to maintain, whatever the part is, that this is what it is; and so what holds of
the pieces of a job holds of the whole.

A job that only looks preserves the desk itself.
-/

namespace Caretaker.Job

/-- Whatever the job does, a part of the desk is afterwards as it was before. -/
def Preserves {κ ε α : Type} (part : Desk → κ) (job : Job ε α) : Prop :=
  ∀ desk : Desk, part (job.run desk).2 = part desk

namespace Preserves

variable {κ ε δ α β : Type} {part : Desk → κ}

theorem preserves_iff {job : Job ε α} :
    Preserves part job ↔
      ∀ before, Maintains (fun desk => part desk = before) job fun _ => True := by
  constructor
  · rintro preserves _
    exact Maintains.of_left fun desk same => (preserves desk).trans same
  · exact fun maintains desk => (maintains (part desk) desk rfl).1

theorem pure (value : α) : Preserves part (Pure.pure value : Job ε α) :=
  preserves_iff.mpr fun _ => Maintains.pure trivial

theorem fail (error : ε) : Preserves part (Job.fail error : Job ε α) :=
  preserves_iff.mpr fun _ => Maintains.fail error

/-! ## Composition -/

theorem bind {first : Job ε α} {next : α → Job ε β} (before : Preserves part first)
    (after : ∀ value, Preserves part (next value)) : Preserves part (first >>= next) :=
  preserves_iff.mpr fun held => Maintains.bind (preserves_iff.mp before held)
    fun value _ => preserves_iff.mp (after value) held

theorem attempt {job : Job ε α} (preserves : Preserves part job) :
    Preserves part (job.attempt : Job δ (Except ε α)) :=
  preserves_iff.mpr fun held =>
    (Maintains.attempt (preserves_iff.mp preserves held)).mono fun _ _ => trivial

/-- A part of a job that is only done in one case. -/
theorem perhaps {condition : Prop} [Decidable condition] {job : Job ε Unit} {rest : Job ε β}
    (preserves : Preserves part job) (preservesRest : Preserves part rest) :
    Preserves part (if condition then job >>= fun _ => rest else rest) :=
  preserves_iff.mpr fun held => Maintains.perhaps (fun _ => preserves_iff.mp preserves held)
    (preserves_iff.mp preservesRest held)

theorem mapError {job : Job ε α} (f : ε → δ) (preserves : Preserves part job) :
    Preserves part (job.mapError f) :=
  preserves_iff.mpr fun held => Maintains.mapError f (preserves_iff.mp preserves held)

theorem orFail (error : ε) (value : Option α) : Preserves part (Job.orFail error value) :=
  preserves_iff.mpr fun _ => Maintains.orFail error fun _ _ => trivial

/-- The second part of a job only ever sees desks that the first has left. -/
theorem bind_of_result {first : Job ε α} {next : α → Job ε β} (before : Preserves part first)
    (after : ∀ desk value desk', first.run desk = (.done value, desk') →
      part ((next value).run desk').2 = part desk') :
    Preserves part (first >>= next) := by
  intro desk
  have kept := before desk
  have rest := after desk
  rw [run_bind]
  rcases ended : first.run desk with ⟨value | error | _, desk'⟩
  · rw [ended] at kept
    exact (rest value desk' ended).trans kept
  · rw [ended] at kept
    exact kept
  · rw [ended] at kept
    exact kept

/-- When all that may follow preserves a part, it is as the first job has left it. -/
theorem left_bind {first : Job ε α} {next : α → Job ε β}
    (after : ∀ value, Preserves part (next value)) (desk : Desk) :
    part ((first >>= next).run desk).2 = part (first.run desk).2 := by
  rw [run_bind]
  rcases first.run desk with ⟨value | error | _, desk'⟩
  · exact after value desk'
  · rfl
  · rfl

/-! ## Access to the store -/

theorem through {channel : Channel} {job : Job StoreError α} (preserves : Preserves part job) :
    Preserves part (Job.through channel job) :=
  preserves_iff.mpr fun held => Maintains.through (preserves_iff.mp preserves held)

theorem read (f : Store → Except StoreError α) : Preserves part (Job.read f) :=
  preserves_iff.mpr fun _ => Maintains.read fun _ _ _ _ => trivial

theorem write {f : Store → Except StoreError Store}
    (kept : ∀ desk store, f desk.store = .ok store → part { desk with store } = part desk) :
    Preserves part (Job.write f) :=
  preserves_iff.mpr fun _ => Maintains.write fun desk store same answer =>
    (kept desk store answer).trans same

theorem change {f : Store → Except StoreError (α × Store)}
    (kept : ∀ desk value store, f desk.store = .ok (value, store) →
      part { desk with store } = part desk) :
    Preserves part (Job.change f) :=
  preserves_iff.mpr fun _ => Maintains.change fun desk value store same answer =>
    (kept desk value store answer).trans same

end Preserves

/-! ## Jobs that only look -/

variable {ε δ α β : Type}

/-- The job leaves every desk as it is. -/
def Looks (job : Job ε α) : Prop :=
  ∀ desk : Desk, (job.run desk).2 = desk

/-- Who leaves the whole desk alone preserves every part. -/
theorem Preserves.of_looks {κ : Type} {part : Desk → κ} {job : Job ε α} (looks : job.Looks) :
    Preserves part job :=
  fun desk => congrArg part (looks desk)

namespace Looks

theorem of_preserves {job : Job ε α} (preserves : Preserves id job) : job.Looks :=
  preserves

theorem pure (value : α) : (Pure.pure value : Job ε α).Looks :=
  of_preserves (Preserves.pure value)

theorem fail (error : ε) : (Job.fail error : Job ε α).Looks :=
  of_preserves (Preserves.fail error)

theorem bind {first : Job ε α} {next : α → Job ε β} (looksFirst : first.Looks)
    (looksNext : ∀ value, (next value).Looks) : (first >>= next).Looks :=
  of_preserves (Preserves.bind looksFirst looksNext)

theorem mapError {job : Job ε α} (f : ε → δ) (looks : job.Looks) : (job.mapError f).Looks :=
  of_preserves (Preserves.mapError f looks)

theorem orFail (error : ε) (value : Option α) : (Job.orFail error value).Looks :=
  of_preserves (Preserves.orFail error value)

theorem read (channel : Channel) (f : Store → Except StoreError α) :
    (through channel (Job.read f)).Looks :=
  of_preserves (Preserves.through (Preserves.read f))

/-- A job that only looks finds something or breaks off, and leaves the desk alone. -/
theorem cases {job : Job ε α} (looks : job.Looks) (desk : Desk) :
    (∃ value, job.run desk = (.done value, desk)) ∨ job.BreaksOff desk desk := by
  have left := looks desk
  rcases ended : job.run desk with ⟨value | error | _, desk'⟩ <;> rw [ended] at left
  · exact .inl ⟨value, Prod.ext rfl left⟩
  · exact .inr ⟨by rw [ended, isDone], by rw [ended]; exact left⟩
  · exact .inr ⟨by rw [ended, isDone], by rw [ended]; exact left⟩

end Looks

/-- A read answers at a later desk as it did before, as long as the store and the state of
the channel are the same. -/
theorem run_read_later {channel : Channel} {f : Store → Except StoreError α} {desk later : Desk}
    (sameStore : later.store = desk.store) (sameOutages : later.outages = desk.outages) :
    (through channel (read f)).run later = (((through channel (read f)).run desk).1, later) :=
  Prod.ext (run_read_congr sameStore sameOutages) (Looks.read channel f later)

end Caretaker.Job
