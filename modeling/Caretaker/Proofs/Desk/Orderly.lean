import Caretaker.Proofs.Desk.Maintaining
import Caretaker.Proofs.Store.Reachable

/-!
# Jobs that keep a desk orderly

A desk is orderly when its store is reachable, its clock reads allowed instants only,
and no channel is out of order.  Whatever a job does, it does by steps of the store,
so it leaves an orderly desk orderly, also when it ends with an error.

What a job promises of its result matters as well, since a later part of the job may
write it: the time of day is an allowed instant, and so are the instants of whatever
was read from the store.
-/

namespace Caretaker

open Calendar

/-- The store is reachable by writes of allowed instants, and more such writes follow. -/
structure Desk.Orderly (allowed : Instant → Prop) (desk : Desk) : Prop where
  reachable : desk.store.Reachable allowed
  clock : ∀ n, allowed (desk.source.now n)
  working : desk.outages = []

/-- The job leaves an orderly desk orderly, and what it results in has a property. -/
def Job.Keeps {ε α : Type} (allowed : Instant → Prop) (job : Job ε α) (promise : α → Prop) : Prop :=
  ∀ desk : Desk, desk.Orderly allowed →
    (job.run desk).2.Orderly allowed ∧ ∀ value, (job.run desk).1 = .done value → promise value

namespace Job.Keeps

variable {ε δ α β : Type} {allowed : Instant → Prop} {promise : α → Prop} {further : β → Prop}

/-! ## Composition -/

theorem pure {value : α} (kept : promise value) :
    Keeps allowed (Pure.pure value : Job ε α) promise :=
  Maintains.pure kept

theorem fail (error : ε) : Keeps allowed (Job.fail error : Job ε α) promise :=
  Maintains.fail error

theorem bind {first : Job ε α} {next : α → Job ε β} (before : Keeps allowed first promise)
    (after : ∀ value, promise value → Keeps allowed (next value) further) :
    Keeps allowed (first >>= next) further :=
  Maintains.bind before after

/-- A part of a job that is only done in one case. -/
theorem perhaps {condition : Prop} [Decidable condition] {job : Job ε Unit} {rest : Job ε β}
    (keepsJob : Keeps allowed job fun _ => True) (keepsRest : Keeps allowed rest further) :
    Keeps allowed (if condition then job >>= fun _ => rest else rest) further :=
  Maintains.perhaps (fun _ => keepsJob) keepsRest

theorem mapError {job : Job ε α} (f : ε → δ) (keeps : Keeps allowed job promise) :
    Keeps allowed (job.mapError f) promise :=
  Maintains.mapError f keeps

/-- A result that was taken as a value is promised as far as there was one. -/
theorem attempt {job : Job ε α} (keeps : Keeps allowed job promise) :
    Keeps allowed (job.attempt : Job δ (Except ε α)) fun result =>
      ∀ value, result = .ok value → promise value :=
  Maintains.attempt keeps

theorem supervise {job : Job ε α} (keeps : Keeps allowed job promise) :
    Keeps allowed (job.supervise : Job δ (Outcome ε α)) fun _ => True :=
  (Maintains.supervise keeps).mono fun _ _ => trivial

theorem orFail {value : Option α} (error : ε) (kept : ∀ found, value = some found → promise found) :
    Keeps allowed (Job.orFail error value) promise :=
  Maintains.orFail error kept

/-! ## Drawing from the source -/

theorem freshId : Keeps allowed (Job.freshId : Job ε Uuid) fun _ => True := by
  intro desk orderly
  exact ⟨⟨orderly.reachable, orderly.clock, orderly.working⟩, fun _ _ => trivial⟩

theorem freshIds (count : Nat) :
    Keeps allowed (Job.freshIds count : Job ε (Nat → Uuid)) fun _ => True := by
  intro desk orderly
  exact ⟨⟨orderly.reachable, orderly.clock, orderly.working⟩, fun _ _ => trivial⟩

theorem now : Keeps allowed (Job.now : Job ε Instant) allowed := by
  intro desk orderly
  refine ⟨⟨orderly.reachable, orderly.clock, orderly.working⟩, ?_⟩
  rintro _ ⟨⟩
  exact orderly.clock _

theorem takeToken (bucket : String) :
    Keeps allowed (Job.takeToken bucket : Job ε Bool) fun _ => True := by
  intro desk orderly
  exact ⟨⟨orderly.reachable, orderly.clock, orderly.working⟩, fun _ _ => trivial⟩

/-! ## Access to the store -/

theorem through {channel : Channel} {job : Job StoreError α} (keeps : Keeps allowed job promise) :
    Keeps allowed (Job.through channel job) promise :=
  Maintains.through keeps

theorem read {f : Store → Except StoreError α}
    (kept : ∀ s value, Store.Sound allowed s → f s = .ok value → promise value) :
    Keeps allowed (Job.read f) promise :=
  Maintains.read fun desk value orderly => kept desk.store value orderly.reachable.sound

theorem write {f : Store → Except StoreError Store}
    (steps : ∀ s s', f s = .ok s' → Store.Step allowed s s') :
    Keeps allowed (Job.write f) fun _ => True := by
  apply Maintains.write
  intro desk store orderly answer
  exact ⟨orderly.reachable.step (steps _ _ answer), orderly.clock, orderly.working⟩

theorem change {f : Store → Except StoreError (α × Store)}
    (steps : ∀ s value s', f s = .ok (value, s') → Store.Step allowed s s') :
    Keeps allowed (Job.change f) fun _ => True := by
  apply Maintains.change
  intro desk value store orderly answer
  exact ⟨orderly.reachable.step (steps _ _ _ answer), orderly.clock, orderly.working⟩

end Job.Keeps

end Caretaker
