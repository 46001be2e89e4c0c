import Caretaker.Desk.Access

/-!
# Running jobs

What each way of making a job does with the desk, as an equation.  Jobs are a lawful
monad, so that a long job can be cut anywhere.
-/

namespace Caretaker.Job

variable {ε δ α β γ : Type}

/-! ## Jobs one after the other -/

/-- Jobs that do the same at every desk are the same. -/
theorem ext_run {first second : Job ε α} (same : ∀ desk, first.run desk = second.run desk) :
    first = second := by
  cases first
  cases second
  exact congrArg Job.mk (funext same)

theorem map_id (job : Job ε α) : id <$> job = job := by
  apply ext_run
  intro desk
  show (job >>= fun value => pure value).run desk = job.run desk
  rw [run_bind]
  rcases job.run desk with ⟨value | error | _, desk'⟩ <;> rfl

theorem bind_bind (first : Job ε α) (next : α → Job ε β) (last : β → Job ε γ) :
    first >>= next >>= last = first >>= fun value => next value >>= last := by
  apply ext_run
  intro desk
  rw [run_bind, run_bind, run_bind]
  rcases first.run desk with ⟨value | error | _, desk'⟩ <;> rfl

instance : LawfulMonad (Job ε) :=
  LawfulMonad.mk' (Job ε) map_id (fun _ _ => rfl) bind_bind

/-! ## One job -/

@[simp]
theorem run_mapError (f : ε → δ) (job : Job ε α) (desk : Desk) :
    (job.mapError f).run desk = match job.run desk with
      | (.done value, desk) => (.done value, desk)
      | (.failed error, desk) => (.failed (f error), desk)
      | (.stalled, desk) => (.stalled, desk) :=
  rfl

@[simp]
theorem run_attempt (job : Job ε α) (desk : Desk) :
    (job.attempt : Job δ (Except ε α)).run desk = match job.run desk with
      | (.done value, desk) => (.done (.ok value), desk)
      | (.failed error, desk) => (.done (.error error), desk)
      | (.stalled, desk) => (.stalled, desk) :=
  rfl

@[simp]
theorem run_supervise (job : Job ε α) (desk : Desk) :
    (job.supervise : Job δ (Outcome ε α)).run desk = (.done (job.run desk).1, (job.run desk).2) :=
  rfl

@[simp]
theorem run_freshId (desk : Desk) :
    (freshId : Job ε Uuid).run desk = (.done (desk.source.id desk.source.drawn),
      { desk with source := { desk.source with drawn := desk.source.drawn + 1 } }) :=
  rfl

@[simp]
theorem run_freshIds (count : Nat) (desk : Desk) :
    (freshIds count : Job ε (Nat → Uuid)).run desk =
      (.done fun i => desk.source.id (desk.source.drawn + i),
        { desk with source := { desk.source with drawn := desk.source.drawn + count } }) :=
  rfl

@[simp]
theorem run_now (desk : Desk) :
    (now : Job ε Calendar.Instant).run desk = (.done (desk.source.now desk.source.drawn),
      { desk with source := { desk.source with drawn := desk.source.drawn + 1 } }) :=
  rfl

theorem run_takeToken (bucket : String) (desk : Desk) :
    (takeToken bucket : Job ε Bool).run desk =
      let allowed := desk.limiter.allow bucket (desk.source.nanos desk.source.drawn)
      (.done allowed.1, { desk with
        source := { desk.source with drawn := desk.source.drawn + 1 }
        limiter := allowed.2 }) :=
  rfl

/-- A channel in order does its work. -/
@[simp]
theorem run_through {channel : Channel} {desk : Desk}
    (working : desk.outages.lookup channel = none) (job : Job StoreError α) :
    (through channel job).run desk = job.run desk := by
  simp [through, working]

@[simp]
theorem run_read (f : Store → Except StoreError α) (desk : Desk) :
    (read f).run desk = match f desk.store with
      | .ok value => (.done value, desk)
      | .error error => (.failed error, desk) :=
  rfl

@[simp]
theorem run_write (f : Store → Except StoreError Store) (desk : Desk) :
    (write f).run desk = match f desk.store with
      | .ok store => (.done (), { desk with store })
      | .error error => (.failed error, desk) :=
  rfl

@[simp]
theorem run_change (f : Store → Except StoreError (α × Store)) (desk : Desk) :
    (change f).run desk = match f desk.store with
      | .ok (value, store) => (.done value, { desk with store })
      | .error error => (.failed error, desk) :=
  rfl

/-- What is made of a result adds nothing to what was done to the desk. -/
theorem run_bind_pure (job : Job ε α) (wrap : α → β) (desk : Desk) :
    ((job >>= fun value => (pure (wrap value) : Job ε β)).run desk).2 = (job.run desk).2 := by
  rw [run_bind]
  rcases job.run desk with ⟨result | error | _, desk'⟩ <;> rfl

/-! ## Jobs that succeed -/

/-- The job ends with a result at the desk. -/
def Succeeds (job : Job ε α) (desk : Desk) : Prop :=
  ∃ value, (job.run desk).1 = .done value

/-- Whether a job succeeds can be computed. -/
def isDone : Outcome ε α → Bool
  | .done _ => true
  | .failed _ | .stalled => false

theorem succeeds_iff_isDone {job : Job ε α} {desk : Desk} :
    job.Succeeds desk ↔ isDone (job.run desk).1 = true := by
  unfold Succeeds
  rcases job.run desk with ⟨value | error | _, desk'⟩ <;> simp [isDone]

theorem succeeds_mapError_iff {f : ε → δ} {job : Job ε α} {desk : Desk} :
    (job.mapError f).Succeeds desk ↔ job.Succeeds desk := by
  unfold Succeeds
  rw [run_mapError]
  rcases job.run desk with ⟨value | error | _, desk'⟩ <;> simp

theorem succeeds_read_iff {channel : Channel} {f : Store → Except StoreError α} {desk : Desk}
    (working : desk.outages = []) :
    (through channel (read f)).Succeeds desk ↔ ∃ value, f desk.store = .ok value := by
  unfold Succeeds
  rw [run_through (by simp [working]), run_read]
  cases f desk.store <;> simp

/-- A read that succeeds went through a channel in order, and leaves the desk alone. -/
theorem run_read_of_succeeds {channel : Channel} {f : Store → Except StoreError α} {desk : Desk}
    (succeeds : (through channel (read f)).Succeeds desk) :
    ∃ value, f desk.store = .ok value ∧
      (through channel (read f)).run desk = (.done value, desk) := by
  obtain ⟨value, done⟩ := succeeds
  cases state : desk.outages.lookup channel with
  | some outage => cases outage <;> simp [through, state] at done
  | none =>
      rw [run_through state, run_read] at done ⊢
      cases answer : f desk.store with
      | error error => simp [answer] at done
      | ok found => exact ⟨found, rfl, rfl⟩

/-- A read has a result when its channel is in order and the store has an answer. -/
theorem run_read_eq_done_iff {channel : Channel} {f : Store → Except StoreError α} {desk : Desk}
    {value : α} :
    ((through channel (read f)).run desk).1 = .done value ↔
      desk.outages.lookup channel = none ∧ f desk.store = .ok value := by
  cases state : desk.outages.lookup channel with
  | some outage => cases outage <;> simp [through, state]
  | none =>
      rw [run_through state, run_read]
      cases f desk.store <;> simp

/-- Only what the store answers and the state of the channel decide how a read ends. -/
theorem run_read_congr_answer {channel : Channel} {f : Store → Except StoreError α}
    {desk later : Desk} (sameAnswer : f later.store = f desk.store)
    (sameOutages : later.outages = desk.outages) :
    ((through channel (read f)).run later).1 = ((through channel (read f)).run desk).1 := by
  unfold through
  dsimp only
  rw [sameOutages]
  split
  · rfl
  · rfl
  · rw [run_read, run_read, sameAnswer]
    cases f desk.store <;> rfl

/-- Only the store and the state of the channel decide what a read answers. -/
theorem run_read_congr {channel : Channel} {f : Store → Except StoreError α} {desk later : Desk}
    (sameStore : later.store = desk.store) (sameOutages : later.outages = desk.outages) :
    ((through channel (read f)).run later).1 = ((through channel (read f)).run desk).1 :=
  run_read_congr_answer (congrArg f sameStore) sameOutages

/-- How a job ends with its errors in other terms depends on how it ended. -/
theorem run_mapError_congr {job : Job ε α} {desk later : Desk} (f : ε → δ)
    (same : (job.run later).1 = (job.run desk).1) :
    ((job.mapError f).run later).1 = ((job.mapError f).run desk).1 := by
  have ends (place : Desk) : ((job.mapError f).run place).1 = match (job.run place).1 with
      | .done value => .done value
      | .failed error => .failed (f error)
      | .stalled => .stalled := by
    rw [run_mapError]
    rcases job.run place with ⟨value | error | _, left⟩ <;> rfl
  rw [ends, ends, same]

/-! ## Jobs that end with a result -/

theorem run_bind_eq_done_iff {first : Job ε α} {next : α → Job ε β} {desk left : Desk} {result : β} :
    (first >>= next).run desk = (.done result, left) ↔
      ∃ value middle, first.run desk = (.done value, middle) ∧
        (next value).run middle = (.done result, left) := by
  rw [run_bind]
  rcases first.run desk with ⟨value | error | _, middle⟩ <;> simp [and_assoc]

theorem run_mapError_eq_done_iff {f : ε → δ} {job : Job ε α} {desk left : Desk} {value : α} :
    (job.mapError f).run desk = (.done value, left) ↔ job.run desk = (.done value, left) := by
  rw [run_mapError]
  rcases job.run desk with ⟨value | error | _, desk'⟩ <;> simp

theorem run_through_eq_done_iff {channel : Channel} {job : Job StoreError α} {desk left : Desk}
    {value : α} :
    (through channel job).run desk = (.done value, left) ↔
      desk.outages.lookup channel = none ∧ job.run desk = (.done value, left) := by
  cases state : desk.outages.lookup channel with
  | none => simp [state]
  | some outage => cases outage <;> simp [through, state]

theorem run_orFail_eq_done_iff {error : ε} {found : Option α} {desk left : Desk} {value : α} :
    (orFail error found).run desk = (.done value, left) ↔ found = some value ∧ desk = left := by
  cases found <;> simp [orFail]

theorem run_read_eq_iff {f : Store → Except StoreError α} {desk left : Desk} {value : α} :
    (read f).run desk = (.done value, left) ↔ f desk.store = .ok value ∧ desk = left := by
  rw [run_read]
  cases f desk.store <;> simp

theorem run_write_eq_done_iff {f : Store → Except StoreError Store} {desk left : Desk} :
    (write f).run desk = (.done (), left) ↔
      ∃ store, f desk.store = .ok store ∧ { desk with store } = left := by
  rw [run_write]
  cases f desk.store <;> simp

/-! ## Jobs that break off -/

/-- At the desk the job ends without a result, leaving another desk behind. -/
structure BreaksOff (job : Job ε α) (desk left : Desk) : Prop where
  unfinished : isDone (job.run desk).1 = false
  leaves : (job.run desk).2 = left

/-- What breaks off keeps everything from being done that would come after it. -/
theorem BreaksOff.bind {first : Job ε α} {desk left : Desk} (breaks : first.BreaksOff desk left)
    (next : α → Job ε β) : (first >>= next).BreaksOff desk left := by
  obtain ⟨unfinished, leaves⟩ := breaks
  rcases ended : first.run desk with ⟨value | error | _, desk'⟩
  · rw [ended] at unfinished
    cases unfinished
  · rw [ended] at leaves
    constructor
    · rw [run_bind, ended, isDone]
    · rw [run_bind, ended]
      exact leaves
  · rw [ended] at leaves
    constructor
    · rw [run_bind, ended, isDone]
    · rw [run_bind, ended]
      exact leaves

/-- A job breaks off where a part of it does. -/
theorem BreaksOff.after {first : Job ε α} {next : α → Job ε β} {desk middle left : Desk} {value : α}
    (run : first.run desk = (.done value, middle)) (breaks : (next value).BreaksOff middle left) :
    (first >>= next).BreaksOff desk left := by
  have same : (first >>= next).run desk = (next value).run middle := by
    rw [run_bind, run]
  exact ⟨by rw [same, breaks.unfinished], by rw [same, breaks.leaves]⟩

theorem BreaksOff.mapError {job : Job ε α} {desk left : Desk} (f : ε → δ)
    (breaks : job.BreaksOff desk left) : (job.mapError f).BreaksOff desk left := by
  obtain ⟨unfinished, leaves⟩ := breaks
  rcases ended : job.run desk with ⟨value | error | _, desk'⟩ <;> rw [ended] at unfinished leaves
  · cases unfinished
  · exact ⟨by rw [run_mapError, ended, isDone], by rw [run_mapError, ended]; exact leaves⟩
  · exact ⟨by rw [run_mapError, ended, isDone], by rw [run_mapError, ended]; exact leaves⟩

/-- A channel lets the work through, or breaks it off before anything happens. -/
theorem through_cases (channel : Channel) (job : Job StoreError α) (desk : Desk) :
    (through channel job).run desk = job.run desk ∨ (through channel job).BreaksOff desk desk := by
  cases state : desk.outages.lookup channel with
  | none => exact .inl (run_through state job)
  | some outage =>
      right
      constructor
      · cases outage <;> simp [through, state, isDone]
      · cases outage <;> simp [through, state]

/-- A write is carried out, or breaks off before anything happens. -/
theorem write_cases (channel : Channel) (f : Store → Except StoreError Store) (desk : Desk) :
    (∃ store, f desk.store = .ok store ∧
      (through channel (write f)).run desk = (.done (), { desk with store })) ∨
    (through channel (write f)).BreaksOff desk desk := by
  rcases through_cases channel (write f) desk with same | breaks
  · cases answer : f desk.store with
    | ok store =>
        left
        refine ⟨store, rfl, ?_⟩
        rw [same, run_write, answer]
    | error error =>
        right
        constructor
        · rw [same, run_write, answer, isDone]
        · rw [same, run_write, answer]
  · exact .inr breaks

/-- What is stored is given back, or the job breaks off before anything happens. -/
theorem storing_cases (channel : Channel) (f : Store → Except StoreError Store) (value : α)
    (desk : Desk) :
    (desk.outages.lookup channel = none ∧ ∃ store, f desk.store = .ok store ∧
      (through channel (do write f; return value)).run desk = (.done value, { desk with store })) ∨
    ((desk.outages.lookup channel = none → ∃ error, f desk.store = .error error) ∧
      (through channel (do write f; return value)).BreaksOff desk desk) := by
  cases state : desk.outages.lookup channel with
  | none =>
      cases answer : f desk.store with
      | ok store =>
          refine .inl ⟨rfl, store, rfl, ?_⟩
          rw [run_through state, run_bind, run_write, answer]
          rfl
      | error error =>
          refine .inr ⟨fun _ => ⟨error, rfl⟩, ?_, ?_⟩
          · rw [run_through state, run_bind, run_write, answer, isDone]
          · rw [run_through state, run_bind, run_write, answer]
  | some outage =>
      refine .inr ⟨by rintro ⟨⟩, ?_, ?_⟩
      · cases outage <;> simp [through, state, isDone]
      · cases outage <;> simp [through, state]

/-! ## Jobs that never fail -/

/-- The job ends with no error, at whatever desk. -/
def NeverFails (job : Job ε α) : Prop :=
  ∀ (desk : Desk) (error : ε), (job.run desk).1 ≠ .failed error

namespace NeverFails

theorem pure (value : α) : (Pure.pure value : Job ε α).NeverFails := by
  rintro desk error ⟨⟩

theorem bind {first : Job ε α} {next : α → Job ε β} (before : first.NeverFails)
    (after : ∀ value, (next value).NeverFails) : (first >>= next).NeverFails := by
  intro desk error failed
  rw [run_bind] at failed
  rcases ended : first.run desk with ⟨value | error' | _, desk'⟩
  · rw [ended] at failed
    exact after value desk' error failed
  · exact before desk error' (congrArg Prod.fst ended)
  · rw [ended] at failed
    cases failed

/-- An error that was taken as a value is none. -/
theorem attempt (job : Job ε α) : (job.attempt : Job δ (Except ε α)).NeverFails := by
  intro desk error failed
  rw [run_attempt] at failed
  rcases ended : job.run desk with ⟨value | error' | _, desk'⟩ <;> rw [ended] at failed <;>
    cases failed

end NeverFails

end Caretaker.Job
