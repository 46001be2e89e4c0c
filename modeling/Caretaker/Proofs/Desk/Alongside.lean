import Caretaker.Proofs.Desk.Run

/-!
# Jobs side by side

Two jobs are run at two desks that are level in some respect.  They go alongside each
other when they end alike, and leave desks that are level in some respect again.  What
the desks have besides does not matter, and so such a statement about one job and
itself says what the job does not depend on.
-/

namespace Caretaker

/-- The jobs ended alike: with results that belong together, with the same error, or not
at all. -/
inductive Outcome.Alike {ε α β : Type} (together : α → β → Prop) :
    Outcome ε α → Outcome ε β → Prop where
  | done {value : α} {other : β} (belong : together value other) :
      Alike together (.done value) (.done other)
  | failed (error : ε) : Alike together (.failed error) (.failed error)
  | stalled : Alike together .stalled .stalled

/-- Jobs that ended alike with equal results ended in the same way. -/
theorem Outcome.Alike.eq {ε α : Type} {first second : Outcome ε α}
    (alike : Outcome.Alike (fun value other => value = other) first second) : first = second := by
  cases alike with
  | done belong => rw [belong]
  | failed error => rfl
  | stalled => rfl

theorem Outcome.Alike.imp {ε α β : Type} {together weaker : α → β → Prop}
    {first : Outcome ε α} {second : Outcome ε β} (alike : Outcome.Alike together first second)
    (implies : ∀ value other, together value other → weaker value other) :
    Outcome.Alike weaker first second := by
  cases alike with
  | done belong => exact .done (implies _ _ belong)
  | failed error => exact .failed error
  | stalled => exact .stalled

/-- From desks that are level before, the two jobs end alike and leave desks that are
level after. -/
def Job.Alongside {ε α β : Type} (before : Desk → Desk → Prop) (first : Job ε α) (second : Job ε β)
    (together : α → β → Prop) (after : Desk → Desk → Prop) : Prop :=
  ∀ a b, before a b → Outcome.Alike together (first.run a).1 (second.run b).1 ∧
    after (first.run a).2 (second.run b).2

namespace Job.Alongside

variable {ε δ α β γ κ : Type} {before middle after : Desk → Desk → Prop}
  {together : α → β → Prop} {further : γ → κ → Prop}

/-! ## Composition -/

theorem pure {value : α} {other : β} (belong : together value other)
    (keep : ∀ a b, before a b → after a b) :
    Alongside before (Pure.pure value : Job ε α) (Pure.pure other : Job ε β) together after :=
  fun a b level => ⟨.done belong, keep a b level⟩

theorem fail (error : ε) (keep : ∀ a b, before a b → after a b) :
    Alongside before (Job.fail error : Job ε α) (Job.fail error : Job ε β) together after :=
  fun a b level => ⟨.failed error, keep a b level⟩

theorem bind {first : Job ε α} {second : Job ε β} {next : α → Job ε γ} {next' : β → Job ε κ}
    (start : Alongside before first second together middle)
    (rest : ∀ value other, together value other →
      Alongside middle (next value) (next' other) further after)
    (keep : ∀ a b, middle a b → after a b) :
    Alongside before (first >>= next) (second >>= next') further after := by
  intro a b level
  obtain ⟨alike, levelThen⟩ := start a b level
  rw [run_bind, run_bind]
  revert alike levelThen
  rcases first.run a with ⟨outcome, a'⟩
  rcases second.run b with ⟨outcome', b'⟩
  intro alike levelThen
  cases alike with
  | done belong => exact rest _ _ belong a' b' levelThen
  | failed error => exact ⟨.failed error, keep a' b' levelThen⟩
  | stalled => exact ⟨.stalled, keep a' b' levelThen⟩

theorem weaken {first : Job ε α} {second : Job ε β} {together' : α → β → Prop}
    (side : Alongside before first second together middle)
    (implies : ∀ value other, together value other → together' value other)
    (keep : ∀ a b, middle a b → after a b) : Alongside before first second together' after := by
  intro a b level
  obtain ⟨alike, levelThen⟩ := side a b level
  exact ⟨alike.imp implies, keep _ _ levelThen⟩

theorem mapError {first : Job ε α} {second : Job ε β} (f : ε → δ)
    (side : Alongside before first second together after) :
    Alongside before (first.mapError f) (second.mapError f) together after := by
  intro a b level
  obtain ⟨alike, levelThen⟩ := side a b level
  rw [run_mapError, run_mapError]
  revert alike levelThen
  rcases first.run a with ⟨outcome, a'⟩
  rcases second.run b with ⟨outcome', b'⟩
  intro alike levelThen
  cases alike with
  | done belong => exact ⟨.done belong, levelThen⟩
  | failed error => exact ⟨.failed (f error), levelThen⟩
  | stalled => exact ⟨.stalled, levelThen⟩

theorem supervise {first : Job ε α} {second : Job ε β}
    (side : Alongside before first second together after) :
    Alongside before (first.supervise : Job δ _) (second.supervise : Job δ _)
      (Outcome.Alike together) after := by
  intro a b level
  obtain ⟨alike, levelThen⟩ := side a b level
  exact ⟨.done alike, levelThen⟩

/-! ## Access to the store -/

/-- Channels that are in the same state let the work through or stop it on both sides. -/
theorem through {channel : Channel} {first : Job StoreError α} {second : Job StoreError β}
    (side : Alongside before first second together after)
    (channels : ∀ a b, before a b → a.outages = b.outages)
    (keep : ∀ a b, before a b → after a b) :
    Alongside before (Job.through channel first) (Job.through channel second) together after := by
  intro a b level
  unfold Job.through
  dsimp only
  rw [channels a b level]
  cases b.outages.lookup channel with
  | none => exact side a b level
  | some outage =>
      cases outage with
      | fails error => exact ⟨.failed error, keep a b level⟩
      | stalls => exact ⟨.stalled, keep a b level⟩

/-- A read that the level decides, with what is known of its answer. -/
theorem read {f g : Store → Except StoreError α} {promise : α → Prop}
    (same : ∀ a b, before a b → f a.store = g b.store)
    (kept : ∀ a b value, before a b → f a.store = .ok value → promise value) :
    Alongside before (Job.read f) (Job.read g) (fun value other => value = other ∧ promise value)
      before := by
  intro a b level
  have known := kept a b
  rw [run_read, run_read, ← same a b level]
  cases answer : f a.store with
  | ok value => exact ⟨.done ⟨rfl, known value level answer⟩, level⟩
  | error error => exact ⟨.failed error, level⟩

/-- What is read is of no account when neither its absence nor an error ends the job. -/
theorem attempt_read {channel : Channel} {f g : Store → Except StoreError α}
    (channels : ∀ a b, before a b → a.outages = b.outages) :
    Alongside before ((Job.through channel (Job.read f)).attempt : Job δ _)
      ((Job.through channel (Job.read g)).attempt : Job δ _) (fun _ _ => True) before := by
  intro a b level
  rw [run_attempt, run_attempt]
  unfold Job.through
  dsimp only
  rw [channels a b level]
  cases b.outages.lookup channel with
  | none =>
      rw [run_read, run_read]
      cases f a.store <;> cases g b.store <;> exact ⟨.done trivial, level⟩
  | some outage =>
      cases outage with
      | fails error => exact ⟨.done trivial, level⟩
      | stalls => exact ⟨.stalled, level⟩

end Job.Alongside

end Caretaker
