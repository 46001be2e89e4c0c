import Caretaker.RateLimit
import Mathlib.Data.List.Dedup

/-!
# Buckets do not mix

A call for a token reads and writes the bucket of its own key.  Whatever calls for
other keys come in between, in whatever order and at whatever readings of the clock,
the calls for one key are answered as a limiter answers them that serves nobody else.
The limiter has a bucket for exactly the keys that have called.

The name of a webhook bucket ends in the key it belongs to, so that different keys have
different buckets.
-/

namespace Caretaker

namespace Limiter

variable {α : Type}

/-! ## One call -/

theorem lookup_cons_eq (name other : String) (kept : Bucket α) (rest : List (String × Bucket α)) :
    ((name, kept) :: rest).lookup other = if other = name then some kept else rest.lookup other := by
  rw [List.lookup_cons]
  by_cases same : other = name
  · rw [if_pos same, same, beq_self_eq_true]
  · rw [if_neg same, beq_false_of_ne same]

theorem lookup_store (buckets : List (String × Bucket α)) (key other : String) (bucket : Bucket α) :
    (store buckets key bucket).lookup other =
      if other = key then some bucket else buckets.lookup other := by
  induction buckets with
  | nil => rw [store, lookup_cons_eq]
  | cons entry rest ih =>
      obtain ⟨name, kept⟩ := entry
      by_cases named : name = key
      · rw [store, if_pos named, lookup_cons_eq, lookup_cons_eq, named]
        split <;> rfl
      · rw [store, if_neg named, lookup_cons_eq, lookup_cons_eq, ih]
        by_cases same : other = name
        · have differs : other ≠ key := fun equal => named (same.symm.trans equal)
          rw [if_pos same, if_neg differs, if_pos same]
        · rw [if_neg same, if_neg same]

/-- A bucket is stored under its key in the place the key has, or behind all others. -/
theorem keys_store (buckets : List (String × Bucket α)) (key : String) (bucket : Bucket α) :
    (store buckets key bucket).map Prod.fst =
      if key ∈ buckets.map Prod.fst then buckets.map Prod.fst
      else buckets.map Prod.fst ++ [key] := by
  induction buckets with
  | nil => simp [store]
  | cons entry rest ih =>
      obtain ⟨name, kept⟩ := entry
      by_cases named : name = key
      · simp [store, named]
      · have differs : ¬key = name := fun same => named same.symm
        rw [store, if_neg named, List.map_cons, ih]
        simp only [List.map_cons, List.mem_cons, differs, false_or]
        split <;> simp

variable [Quantity α]

/-- Asking for a token touches the bucket of its key only. -/
theorem lookup_allow_of_ne (limiter : Limiter α) {key other : String} (isOther : other ≠ key)
    (now : Nat) : (limiter.allow key now).2.buckets.lookup other = limiter.buckets.lookup other := by
  rw [allow]
  dsimp only
  rw [lookup_store, if_neg isOther]

/-- Limiters with the same rule and the same bucket give the same answer, and have the
same bucket again. -/
theorem allow_congr {limiter other : Limiter α} {key : String} (rule : limiter.rule = other.rule)
    (bucket : limiter.buckets.lookup key = other.buckets.lookup key) (now : Nat) :
    (limiter.allow key now).1 = (other.allow key now).1 ∧
      (limiter.allow key now).2.buckets.lookup key = (other.allow key now).2.buckets.lookup key := by
  have same : limiter.bucket key now = other.bucket key now := by
    rw [Limiter.bucket, Limiter.bucket, rule, bucket]
  rw [allow, allow]
  dsimp only
  rw [same, rule, lookup_store, lookup_store, if_pos rfl, if_pos rfl]
  exact ⟨rfl, rfl⟩

@[simp]
theorem rule_allow (limiter : Limiter α) (key : String) (now : Nat) :
    (limiter.allow key now).2.rule = limiter.rule :=
  rfl

/-- Asking for a token gives its key a bucket, unless it has one. -/
theorem keys_allow (limiter : Limiter α) (key : String) (now : Nat) :
    (limiter.allow key now).2.buckets.map Prod.fst =
      if key ∈ limiter.buckets.map Prod.fst then limiter.buckets.map Prod.fst
      else limiter.buckets.map Prod.fst ++ [key] :=
  keys_store ..

/-! ## Calls one after the other -/

/-- Somebody asks for a token of a key at a reading of the clock. -/
structure Call where
  key : String
  now : Nat

/-- The calls with their answers. -/
def serve (limiter : Limiter α) : List Call → List (Call × Bool)
  | [] => []
  | call :: rest =>
      let answered := limiter.allow call.key call.now
      (call, answered.1) :: answered.2.serve rest

/-- The limiter after the calls. -/
def afterCalls (limiter : Limiter α) : List Call → Limiter α
  | [] => limiter
  | call :: rest => (limiter.allow call.key call.now).2.afterCalls rest

/-- The calls for a key are answered as by a limiter that has the same bucket for the key
and hears of no other key. -/
theorem filter_serve {limiter alone : Limiter α} {key : String} (rule : limiter.rule = alone.rule)
    (bucket : limiter.buckets.lookup key = alone.buckets.lookup key) (calls : List Call) :
    (limiter.serve calls).filter (fun answered => answered.1.key = key) =
      alone.serve (calls.filter fun call => call.key = key) := by
  induction calls generalizing limiter alone with
  | nil => rfl
  | cons call rest ih =>
      by_cases own : call.key = key
      · subst own
        obtain ⟨answer, next⟩ := allow_congr rule bucket call.now
        simp only [serve, List.filter_cons, decide_true, if_true, answer]
        rw [ih (by simpa using rule) next]
      · have untouched := limiter.lookup_allow_of_ne (Ne.symm own) call.now
        simp only [serve, List.filter_cons, own, decide_false, Bool.false_eq_true, if_false]
        exact ih rule (untouched.trans bucket)

/-- The keys with a bucket stay distinct, and are those that had one and those that have
called. -/
theorem keys_afterCalls {limiter : Limiter α} (distinct : (limiter.buckets.map Prod.fst).Nodup)
    (calls : List Call) :
    ((limiter.afterCalls calls).buckets.map Prod.fst).Nodup ∧
      ∀ key, key ∈ (limiter.afterCalls calls).buckets.map Prod.fst ↔
        key ∈ limiter.buckets.map Prod.fst ∨ key ∈ calls.map Call.key := by
  induction calls generalizing limiter with
  | nil => exact ⟨distinct, fun key => by simp [afterCalls]⟩
  | cons call rest ih =>
      have keys := keys_allow limiter call.key call.now
      have stillDistinct : ((limiter.allow call.key call.now).2.buckets.map Prod.fst).Nodup := by
        rw [keys]
        split
        · exact distinct
        · rename_i unknown
          exact List.nodup_append_comm.mp (List.nodup_cons.mpr ⟨unknown, distinct⟩)
      obtain ⟨distinctAfter, called⟩ := ih stillDistinct
      refine ⟨distinctAfter, fun key => ?_⟩
      rw [afterCalls, called, keys, List.map_cons, List.mem_cons]
      split
      · rename_i known
        constructor
        · rintro (had | later)
          · exact .inl had
          · exact .inr (.inr later)
        · rintro (had | rfl | later)
          · exact .inl had
          · exact .inl known
          · exact .inr later
      · rw [List.mem_append, List.mem_singleton, or_assoc]

/-- A limiter that has seen nobody yet tracks the keys that have called. -/
theorem trackedKeys_afterCalls {limiter : Limiter α} (fresh : limiter.buckets = [])
    (calls : List Call) :
    (limiter.afterCalls calls).trackedKeys = (calls.map Call.key).dedup.length := by
  have apart : (limiter.buckets.map Prod.fst).Nodup := by simp [fresh]
  obtain ⟨distinct, called⟩ := keys_afterCalls apart calls
  have same : ((limiter.afterCalls calls).buckets.map Prod.fst).Perm (calls.map Call.key).dedup := by
    rw [List.perm_ext_iff_of_nodup distinct (List.nodup_dedup _)]
    intro key
    simp [called, fresh]
  rw [trackedKeys, ← List.length_map Prod.fst, same.length_eq]

end Limiter

/-! ## Buckets of webhook keys -/

@[simp]
theorem webhookBucket_inj {apiKey other : String} :
    webhookBucket apiKey = webhookBucket other ↔ apiKey = other := by
  simp [webhookBucket]

namespace Limiter

/-- A call with a webhook key asks for a token of its bucket. -/
def Call.ofWebhook (call : Call) : Call :=
  { call with key := webhookBucket call.key }

/-- Whatever a limiter allows, and in whatever order calls come, the calls for a key are
answered as if no other key existed, and so are those with a webhook key; and at every
moment the limiter tracks the keys that have called so far. -/
theorem serve_apart (capacity windowNanos : Nat) (calls : List Call) :
    (∀ key, ((ofWindow capacity windowNanos).serve calls).filter
          (fun answered => answered.1.key = key) =
        (ofWindow capacity windowNanos).serve (calls.filter fun call => call.key = key)) ∧
      (∀ made, ((ofWindow capacity windowNanos).afterCalls (calls.take made)).trackedKeys =
        ((calls.take made).map Call.key).dedup.length) ∧
      (∀ apiKey other, webhookBucket apiKey = webhookBucket other ↔ apiKey = other) ∧
      ∀ apiKey, ((ofWindow capacity windowNanos).serve (calls.map Call.ofWebhook)).filter
          (fun answered => answered.1.key = webhookBucket apiKey) =
        (ofWindow capacity windowNanos).serve
          ((calls.filter fun call => call.key = apiKey).map Call.ofWebhook) := by
  refine ⟨fun key => filter_serve rfl rfl calls, fun made => trackedKeys_afterCalls rfl _,
    fun _ _ => webhookBucket_inj, fun apiKey => ?_⟩
  rw [filter_serve rfl rfl, List.filter_map]
  congr 3
  funext call
  simp [Call.ofWebhook]

/-- A limiter of one token per minute, and a clock that steps back for its second caller. -/
example : ((ofWindow 1 60000000000).serve [⟨"a", 7⟩, ⟨"b", 5⟩, ⟨"a", 60000000006⟩,
    ⟨"b", 60000000005⟩]).map Prod.snd = [true, true, false, true] := by
  decide +kernel

end Limiter

end Caretaker
