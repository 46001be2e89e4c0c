import Caretaker.Proofs.Buckets
import Mathlib.Algebra.Order.Field.Rat
import Mathlib.Order.Interval.Finset.Nat
import Mathlib.Order.Monotone.Basic
import Mathlib.Tactic.FieldSimp
import Mathlib.Tactic.Linarith
import Mathlib.Tactic.Ring

/-!
# How many calls a bucket allows

Counted in fractions, a bucket is a limit in both directions.  It never allows more than
it holds and what it refills since, and it turns a call away only when it has allowed its
whole capacity within the last window.

Time is told by the highest reading of the clock so far, so a clock that steps back
changes nothing.  Two accounts are kept along a run of calls: what was allowed since an
earlier call, together with what is left, is bounded from above, and what was allowed
since an earlier time, together with what is left, is bounded from below.
-/

namespace Caretaker

/-- Fractions, which are never rounded. -/
instance : Quantity ℚ where
  one := 1
  add := (· + ·)
  sub := (· - ·)
  mul := (· * ·)
  div := (· / ·)
  least := min
  atLeast a b := decide (b ≤ a)
  whole n := n
  seconds nanos := nanos / 1000000000
  shortestWindow := 1 / 2 ^ 52

/-- A window of a nanosecond is long enough to be counted with. -/
theorem BucketRule.ofWindow_exact (capacity : ℕ) {window : ℕ} (positive : 0 < window) :
    (ofWindow capacity window : BucketRule ℚ) = ⟨capacity, capacity / (window / 1000000000)⟩ := by
  have nanosecond : (1 : ℚ) ≤ window := by exact_mod_cast positive
  have longEnough : (1 / 2 ^ 52 : ℚ) ≤ window / 1000000000 := by
    calc (1 / 2 ^ 52 : ℚ) ≤ 1 / 1000000000 := by norm_num
      _ ≤ window / 1000000000 := by gcongr
  have kept : Quantity.atLeast (Quantity.seconds window) (Quantity.shortestWindow : ℚ) = true :=
    decide_eq_true longEnough
  simp only [ofWindow, kept, if_true]
  rfl

/-- What a bucket has gained since it was last filled up. -/
theorem Bucket.tokens_refill {capacity window : ℕ} (positive : 0 < window) (bucket : Bucket ℚ)
    (now : ℕ) :
    (bucket.refill (.ofWindow capacity window) now).tokens =
      min (bucket.tokens + capacity / window * (max now bucket.refilled - bucket.refilled))
        capacity := by
  have elapsed : ((now - bucket.refilled : ℕ) : ℚ) = max now bucket.refilled - bucket.refilled := by
    rcases le_total now bucket.refilled with back | forth
    · rw [Nat.sub_eq_zero_of_le back, max_eq_right (by exact_mod_cast back), sub_self, Nat.cast_zero]
    · rw [Nat.cast_sub forth, max_eq_left (by exact_mod_cast forth)]
  have nonzero : (window : ℚ) ≠ 0 := by exact_mod_cast positive.ne'
  have gained : ((now - bucket.refilled : ℕ) : ℚ) / 1000000000 *
      (capacity / (window / 1000000000)) =
        capacity / window * (max now bucket.refilled - bucket.refilled) := by
    rw [elapsed]
    field_simp
  rw [Bucket.refill, BucketRule.ofWindow_exact capacity positive, ← gained]
  rfl

/-- A call is allowed when it finds a whole token, and takes that token. -/
theorem Bucket.take_exact (rule : BucketRule ℚ) (bucket : Bucket ℚ) (now : ℕ) :
    bucket.take rule now =
      (decide (1 ≤ (bucket.refill rule now).tokens), { bucket.refill rule now with
        tokens := (bucket.refill rule now).tokens -
          if 1 ≤ (bucket.refill rule now).tokens then 1 else 0 }) := by
  have test : Quantity.atLeast (bucket.refill rule now).tokens (Quantity.one : ℚ) =
      decide (1 ≤ (bucket.refill rule now).tokens) := rfl
  rw [Bucket.take]
  dsimp only
  rw [test]
  by_cases enough : 1 ≤ (bucket.refill rule now).tokens
  · rw [decide_eq_true enough, if_pos rfl, if_pos enough]
    rfl
  · rw [decide_eq_false enough, if_neg Bool.false_ne_true, if_neg enough, sub_zero]

namespace Limiter

/-- A limiter that counts in fractions, with no keys yet.  The window is in nanoseconds,
as the readings of the clock are. -/
def exact (capacity window : ℕ) : Limiter ℚ :=
  { rule := .ofWindow capacity window, buckets := [] }

theorem afterCalls_concat {α : Type} [Quantity α] (limiter : Limiter α) (calls : List Call)
    (call : Call) :
    limiter.afterCalls (calls ++ [call]) =
      ((limiter.afterCalls calls).allow call.key call.now).2 := by
  induction calls generalizing limiter with
  | nil => rfl
  | cons first rest ih => exact ih _

end Limiter

/-! ## Calls for one key -/

/-- A series of calls for one key, with the reading of the clock at each, and the limit that
they are under. -/
structure CallSeries where
  capacity : ℕ
  /-- In nanoseconds, as the readings are. -/
  window : ℕ
  key : String
  reading : ℕ → ℕ

namespace CallSeries

section

variable (c : CallSeries)

/-- The limiter when the `n`-th call comes in. -/
def before (n : ℕ) : Limiter ℚ :=
  (Limiter.exact c.capacity c.window).afterCalls ((List.range n).map fun k => ⟨c.key, c.reading k⟩)

/-- The `n`-th call is allowed. -/
def allows (n : ℕ) : Bool :=
  ((c.before n).allow c.key (c.reading n)).1

/-- The bucket of the key as the `n`-th call finds it. -/
def found (n : ℕ) : Bucket ℚ :=
  ((c.before n).bucket c.key (c.reading n)).refill (.ofWindow c.capacity c.window) (c.reading n)

/-- The tokens that the `n`-th call takes. -/
def spent (n : ℕ) : ℚ :=
  if c.allows n then 1 else 0

/-- The highest reading of the clock up to the `n`-th call. -/
def latest : ℕ → ℕ
  | 0 => c.reading 0
  | n + 1 => max (c.reading (n + 1)) (latest n)

/-- What a bucket gains from a time to the `n`-th call, as long as it is not full. -/
def gain (time : ℚ) (n : ℕ) : ℚ :=
  c.capacity / c.window * (c.latest n - time)

/-- How many calls of a kind, before the `n`-th, are allowed. -/
def allowed (kind : ℕ → Prop) [DecidablePred kind] (n : ℕ) : ℕ :=
  ((Finset.range n).filter fun k => c.allows k = true ∧ kind k).card

end

variable {c : CallSeries}

/-! ### One call after the other -/

theorem before_succ (n : ℕ) : c.before (n + 1) = ((c.before n).allow c.key (c.reading n)).2 := by
  rw [before, List.range_succ, List.map_append, List.map_singleton, Limiter.afterCalls_concat]
  rfl

theorem rule_before (n : ℕ) : (c.before n).rule = .ofWindow c.capacity c.window := by
  induction n with
  | zero => rfl
  | succ n ih => rw [before_succ, Limiter.rule_allow, ih]

/-- A call is allowed when it finds a token. -/
theorem allows_iff (n : ℕ) : c.allows n = true ↔ 1 ≤ (c.found n).tokens := by
  rw [allows, Limiter.allow, rule_before, Bucket.take_exact]
  exact decide_eq_true_iff

/-- A call leaves the bucket as it found it, but for the token that it takes. -/
theorem bucket_before_succ (n now : ℕ) :
    (c.before (n + 1)).bucket c.key now =
      ⟨(c.found n).tokens - c.spent n, (c.found n).refilled⟩ := by
  rw [before_succ, Limiter.bucket, Limiter.allow, rule_before, Bucket.take_exact]
  dsimp only
  rw [Limiter.lookup_store, if_pos rfl, Option.getD_some]
  simp only [spent, allows_iff]
  rfl

/-- The first call finds a full bucket. -/
theorem tokens_found_zero (positive : 0 < c.window) : (c.found 0).tokens = c.capacity := by
  have full : (c.before 0).bucket c.key (c.reading 0) = ⟨c.capacity, c.reading 0⟩ := rfl
  rw [found, full, Bucket.tokens_refill positive]
  simp

theorem latest_succ (n : ℕ) : c.latest (n + 1) = max (c.reading (n + 1)) (c.latest n) :=
  rfl

theorem latest_mono {i n : ℕ} (since : i ≤ n) : c.latest i ≤ c.latest n :=
  monotone_nat_of_le_succ (fun _ => le_max_right _ _) since

theorem reading_le_latest (n : ℕ) : c.reading n ≤ c.latest n := by
  cases n with
  | zero => exact le_rfl
  | succ n => exact le_max_left _ _

theorem latest_le {n t : ℕ} (bounded : ∀ k ≤ n, c.reading k ≤ t) : c.latest n ≤ t := by
  induction n with
  | zero => exact bounded 0 le_rfl
  | succ n ih =>
      exact max_le (bounded (n + 1) le_rfl) (ih fun k upTo => bounded k (upTo.trans (Nat.le_succ n)))

/-- The bucket was last filled up at the highest reading so far. -/
theorem refilled_found (n : ℕ) : (c.found n).refilled = c.latest n := by
  induction n with
  | zero => exact max_self (c.reading 0)
  | succ n ih =>
      rw [found, bucket_before_succ, latest_succ, ← ih]
      rfl

/-- Between two calls the bucket gains what the clock has gone forward. -/
theorem tokens_found_succ (positive : 0 < c.window) (n : ℕ) :
    (c.found (n + 1)).tokens =
      min ((c.found n).tokens - c.spent n + c.gain (c.latest n) (n + 1)) c.capacity := by
  rw [found, bucket_before_succ, Bucket.tokens_refill positive, gain, latest_succ, refilled_found]

/-! ### What a call finds -/

theorem perSecond_nonneg : (0 : ℚ) ≤ c.capacity / c.window :=
  div_nonneg (Nat.cast_nonneg _) (Nat.cast_nonneg _)

theorem gain_nonneg {time : ℚ} {n : ℕ} (earlier : time ≤ c.latest n) : 0 ≤ c.gain time n :=
  mul_nonneg perSecond_nonneg (sub_nonneg.mpr earlier)

/-- What is gained from a time on is gained up to a call, and from then on. -/
theorem gain_succ (time : ℚ) (n : ℕ) :
    c.gain time (n + 1) = c.gain time n + c.gain (c.latest n) (n + 1) := by
  unfold gain
  ring

theorem gain_step_nonneg (n : ℕ) : 0 ≤ c.gain (c.latest n) (n + 1) :=
  gain_nonneg (Nat.cast_le.mpr (latest_mono (Nat.le_succ n)))

/-- No call takes more than it finds. -/
theorem spent_le_tokens (n : ℕ) (nonneg : 0 ≤ (c.found n).tokens) :
    c.spent n ≤ (c.found n).tokens := by
  unfold spent
  split
  · rename_i isAllowed
    exact (allows_iff n).mp isAllowed
  · exact nonneg

/-- No call finds less than nothing or more than the capacity. -/
theorem tokens_found_mem (positive : 0 < c.window) (n : ℕ) :
    0 ≤ (c.found n).tokens ∧ (c.found n).tokens ≤ c.capacity := by
  induction n with
  | zero =>
      rw [tokens_found_zero positive]
      exact ⟨Nat.cast_nonneg c.capacity, le_refl _⟩
  | succ n ih =>
      have left : 0 ≤ (c.found n).tokens - c.spent n := sub_nonneg.mpr (spent_le_tokens n ih.1)
      rw [tokens_found_succ positive]
      exact ⟨le_min (add_nonneg left (gain_step_nonneg n)) (Nat.cast_nonneg c.capacity),
        min_le_right _ _⟩

/-! ### Two accounts -/

/-- A call is counted when it is of the kind and takes a token. -/
theorem allowed_succ (kind : ℕ → Prop) [DecidablePred kind] (n : ℕ) :
    (c.allowed kind (n + 1) : ℚ) = c.allowed kind n + if kind n then c.spent n else 0 := by
  rw [allowed, Finset.range_add_one, Finset.filter_insert]
  by_cases isAllowed : c.allows n = true <;> by_cases isKind : kind n <;>
    simp [allowed, spent, isAllowed, isKind]

/-- What was allowed since a call, with what is left, is no more than the capacity and what
was gained since. -/
theorem allowed_add_tokens_le (positive : 0 < c.window) {i n : ℕ} (since : i ≤ n) :
    c.allowed (i ≤ ·) n + (c.found n).tokens ≤ c.capacity + c.gain (c.latest i) n := by
  induction n, since using Nat.le_induction with
  | base =>
      have none : c.allowed (i ≤ ·) i = 0 := by
        rw [allowed, Finset.card_eq_zero]
        apply Finset.filter_false_of_mem
        rintro k isEarlier ⟨-, isLater⟩
        exact absurd isLater (not_le.mpr (Finset.mem_range.mp isEarlier))
      rw [none, gain, sub_self, mul_zero, Nat.cast_zero, zero_add, add_zero]
      exact (tokens_found_mem positive i).2
  | succ n since ih =>
      have filled := min_le_left ((c.found n).tokens - c.spent n + c.gain (c.latest n) (n + 1))
        (c.capacity : ℚ)
      rw [← tokens_found_succ positive] at filled
      rw [allowed_succ, if_pos since, gain_succ]
      linarith

theorem min_add_le (most level : ℚ) {gain : ℚ} (nonneg : 0 ≤ gain) :
    min most (level + gain) ≤ min most level + gain := by
  rcases le_total most level with full | short
  · rw [min_eq_left full]
    exact (min_le_left _ _).trans (le_add_of_nonneg_right nonneg)
  · rw [min_eq_right short]
    exact min_le_right _ _

/-- What was allowed after a time, with what is left, is no less than what was gained since
that time, up to the capacity. -/
theorem min_le_tokens_add_allowed (positive : 0 < c.window) (time : ℚ) (n : ℕ) :
    min (c.capacity : ℚ) (c.gain time n) ≤
      (c.found n).tokens + c.allowed (fun k => time < c.latest k) n := by
  induction n with
  | zero =>
      rw [tokens_found_zero positive]
      exact (min_le_left _ _).trans (le_add_of_nonneg_right (Nat.cast_nonneg _))
  | succ n ih =>
      have gained := gain_step_nonneg (c := c) n
      have left := sub_nonneg.mpr (spent_le_tokens n (tokens_found_mem positive n).1)
      rw [tokens_found_succ positive, gain_succ]
      rcases min_choice ((c.found n).tokens - c.spent n + c.gain (c.latest n) (n + 1))
        (c.capacity : ℚ) with notFull | full
      · rw [notFull, allowed_succ]
        by_cases late : time < c.latest n
        · have step := min_add_le c.capacity (c.gain time n) gained
          rw [if_pos late]
          linarith
        · -- Nothing was gained before the call, so what is left may be nothing as well.
          have past : c.gain time n ≤ 0 :=
            mul_nonpos_of_nonneg_of_nonpos perSecond_nonneg (sub_nonpos.mpr (not_lt.mp late))
          have counted : (0 : ℚ) ≤ c.allowed (fun k => time < c.latest k) n := Nat.cast_nonneg _
          rw [if_neg late]
          refine (min_le_right _ _).trans ?_
          linarith
      · rw [full]
        exact (min_le_left _ _).trans (le_add_of_nonneg_right (Nat.cast_nonneg _))

/-! ### Limits in both directions -/

/-- The tokens are between none and the capacity. -/
def InRange (c : CallSeries) (bucket : Bucket ℚ) : Prop :=
  0 ≤ bucket.tokens ∧ bucket.tokens ≤ c.capacity

/-- Refilling keeps the tokens between none and the capacity. -/
theorem InRange.refill (positive : 0 < c.window) {bucket : Bucket ℚ} (inRange : c.InRange bucket)
    (now : ℕ) : c.InRange (bucket.refill (.ofWindow c.capacity c.window) now) := by
  have forward : (0 : ℚ) ≤ max now bucket.refilled - bucket.refilled :=
    sub_nonneg.mpr (Nat.cast_le.mpr (le_max_right _ _))
  rw [InRange, Bucket.tokens_refill positive]
  exact ⟨le_min (add_nonneg inRange.1 (mul_nonneg perSecond_nonneg forward))
    (Nat.cast_nonneg c.capacity), min_le_right _ _⟩

/-- The bucket of the key is in range, before its first use and between any two calls. -/
theorem inRange_bucket (positive : 0 < c.window) (n now : ℕ) :
    c.InRange ((c.before n).bucket c.key now) := by
  cases n with
  | zero => exact ⟨Nat.cast_nonneg c.capacity, le_refl (c.capacity : ℚ)⟩
  | succ n =>
      obtain ⟨nonneg, atMost⟩ := tokens_found_mem positive n
      have taken : 0 ≤ c.spent n := by
        unfold spent
        split <;> norm_num
      rw [bucket_before_succ]
      exact ⟨sub_nonneg.mpr (spent_le_tokens n nonneg), (sub_le_self _ taken).trans atMost⟩

/-- From one call to another, no more calls are allowed than the capacity and what the clock
goes forward in between. -/
theorem card_allowed_le (positive : 0 < c.window) {i j : ℕ} (since : i ≤ j) :
    (((Finset.Icc i j).filter fun k => c.allows k = true).card : ℚ) ≤
      c.capacity + c.capacity / c.window * (c.latest j - c.latest i) := by
  have same : ((Finset.Icc i j).filter fun k => c.allows k = true).card =
      c.allowed (i ≤ ·) (j + 1) := by
    apply congrArg Finset.card
    ext k
    simp only [Finset.mem_filter, Finset.mem_Icc, Finset.mem_range]
    constructor
    · rintro ⟨⟨fromI, toJ⟩, isAllowed⟩
      exact ⟨Nat.lt_succ_of_le toJ, isAllowed, fromI⟩
    · rintro ⟨toJ, isAllowed, fromI⟩
      exact ⟨⟨fromI, Nat.le_of_lt_succ toJ⟩, isAllowed⟩
  have account := allowed_add_tokens_le positive since
  have last := spent_le_tokens j (tokens_found_mem positive j).1
  rw [same, allowed_succ, if_pos since]
  rw [gain] at account
  linarith

/-- A call is turned away only if the whole capacity was allowed within the window before
it. -/
theorem capacity_le_of_denied (positive : 0 < c.window) {n : ℕ} (denied : c.allows n = false) :
    c.capacity ≤ ((Finset.range n).filter fun k =>
      c.allows k = true ∧ c.latest n < c.latest k + c.window).card := by
  have same : c.allowed (fun k => (c.latest n : ℚ) - c.window < c.latest k) n =
      ((Finset.range n).filter fun k =>
        c.allows k = true ∧ c.latest n < c.latest k + c.window).card := by
    apply congrArg Finset.card
    apply Finset.filter_congr
    intro k _
    simp only [sub_lt_iff_lt_add, ← Nat.cast_add, Nat.cast_lt]
  have refilled : c.gain (c.latest n - c.window) n = c.capacity := by
    have nonzero : (c.window : ℚ) ≠ 0 := Nat.cast_ne_zero.mpr positive.ne'
    rw [gain, sub_sub_cancel, div_mul_cancel₀ _ nonzero]
  have account := min_le_tokens_add_allowed positive (c.latest n - c.window) n
  have short : (c.found n).tokens < 1 := by
    rw [← not_le, ← allows_iff, denied]
    exact Bool.false_ne_true
  rw [refilled, min_self, same] at account
  have almost : (c.capacity : ℚ) < ((Finset.range n).filter fun k =>
      c.allows k = true ∧ c.latest n < c.latest k + c.window).card + 1 := by
    linarith
  exact Nat.lt_succ_iff.mp (by exact_mod_cast almost)

/-- After a pause of a whole window, as many calls as the capacity are allowed at once. -/
theorem allows_after_pause (positive : 0 < c.window) {n t : ℕ}
    (pause : ∀ k < n, c.reading k + c.window ≤ t)
    (atOnce : ∀ i < c.capacity, c.reading (n + i) = t) {i : ℕ} (few : i < c.capacity) :
    c.allows (n + i) = true := by
  by_contra denied
  have spentAll := capacity_le_of_denied positive (Bool.eq_false_iff.mpr denied)
  have reached : t ≤ c.latest (n + i) := (atOnce i few).symm.le.trans (reading_le_latest _)
  -- Only the calls after the pause are within the window.
  have within : ((Finset.range (n + i)).filter fun k =>
      c.allows k = true ∧ c.latest (n + i) < c.latest k + c.window) ⊆ Finset.Ico n (n + i) := by
    intro k member
    obtain ⟨earlier, -, recent⟩ := Finset.mem_filter.mp member
    refine Finset.mem_Ico.mpr ⟨?_, Finset.mem_range.mp earlier⟩
    by_contra beforePause
    have old : c.latest k + c.window ≤ t := by
      have low : c.latest k ≤ t - c.window :=
        latest_le fun j upTo =>
          Nat.le_sub_of_add_le (pause j (upTo.trans_lt (not_le.mp beforePause)))
      have room := pause k (not_le.mp beforePause)
      omega
    omega
  have few' := Finset.card_le_card within
  rw [Nat.card_Ico] at few'
  omega

/-- What is promised of the calls for a key. -/
structure Limited (c : CallSeries) : Prop where
  inRange : ∀ n now, c.InRange ((c.before n).bucket c.key now) ∧
    c.InRange (((c.before n).bucket c.key now).refill (c.before n).rule now)
  atMost : ∀ i j, i ≤ j → (((Finset.Icc i j).filter fun k => c.allows k = true).card : ℚ) ≤
    c.capacity + c.capacity / c.window * (c.latest j - c.latest i)
  denied : ∀ n, c.allows n = false → c.capacity ≤ ((Finset.range n).filter fun k =>
    c.allows k = true ∧ c.latest n < c.latest k + c.window).card
  first : ∀ n < c.capacity, c.allows n = true
  rested : ∀ n t, (∀ k < n, c.reading k + c.window ≤ t) →
    (∀ i < c.capacity, c.reading (n + i) = t) → ∀ i < c.capacity, c.allows (n + i) = true

/-- Whatever the capacity, the window and the readings of the clock, in any order: no more
calls are allowed than the bucket holds and gains, and none is turned away unless the
capacity was used up within the window. -/
theorem limited {c : CallSeries} (positive : 0 < c.window) : c.Limited where
  inRange n now := by
    have inRange := inRange_bucket positive n now
    rw [rule_before]
    exact ⟨inRange, inRange.refill positive now⟩
  atMost _ _ since := card_allowed_le positive since
  denied _ denied := capacity_le_of_denied positive denied
  first n few := by
    by_contra denied
    have spentAll := (capacity_le_of_denied positive (Bool.eq_false_iff.mpr denied)).trans
      (Finset.card_filter_le _ _)
    rw [Finset.card_range] at spentAll
    omega
  rested _ _ pause atOnce _ few := allows_after_pause positive pause atOnce few

/-- One call a minute, with a clock that steps back before the second call. -/
def minutely : CallSeries where
  capacity := 1
  window := 60000000000
  key := webhookBucket "k"
  reading n := [100, 40, 60000000100].getD n 60000000100

theorem limited_minutely : minutely.Limited ∧ minutely.allows 0 = true ∧
    minutely.allows 1 = false ∧ minutely.allows 2 = true ∧ minutely.allows 3 = false :=
  ⟨limited (by decide), by decide +kernel, by decide +kernel, by decide +kernel,
    by decide +kernel⟩

end CallSeries

end Caretaker
