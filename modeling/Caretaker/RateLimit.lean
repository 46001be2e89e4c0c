import Caretaker.Settings.Basic

/-!
# Rate limits

Each key has a bucket of tokens.  A call takes one token and is turned away when
there is none.  A bucket is full at its first use, refills all the time at the rate
of its capacity per window, and never holds more than its capacity.  A clock that
steps back refills nothing.

The arithmetic is a parameter: the service counts in doubles, and the same bucket
over exact fractions is the one to reason about.
-/

namespace Caretaker

/-- The arithmetic that a bucket needs. -/
class Quantity (α : Type) where
  one : α
  add : α → α → α
  sub : α → α → α
  mul : α → α → α
  div : α → α → α
  least : α → α → α
  atLeast : α → α → Bool
  whole : Nat → α
  /-- Seconds from a number of nanoseconds. -/
  seconds : Nat → α
  /-- The shortest window that a limiter counts with, in seconds. -/
  shortestWindow : α

/-- Whole seconds plus the rest of the nanoseconds, each converted by itself. -/
def secondsFloat (nanos : Nat) : Float :=
  (nanos / 1000000000).toUInt64.toFloat + (nanos % 1000000000).toUInt64.toFloat / 1e9

instance : Quantity Float where
  one := 1.0
  add := (· + ·)
  sub := (· - ·)
  mul := (· * ·)
  div := (· / ·)
  least a b := if a < b then a else b
  atLeast a b := b ≤ a
  whole n := n.toUInt64.toFloat
  seconds := secondsFloat
  shortestWindow := 2.220446049250313e-16

/-- The tokens of a key, and the reading of the clock that they belong to. -/
structure Bucket (α : Type) where
  tokens : α
  refilled : Nat

/-- What every bucket of a limiter can hold, and how fast it refills. -/
structure BucketRule (α : Type) where
  capacity : α
  perSecond : α

/-- The rule that refills the capacity once in every window. -/
def BucketRule.ofWindow {α : Type} [Quantity α] (capacity windowNanos : Nat) : BucketRule α :=
  let tokens := Quantity.whole capacity
  let window := Quantity.seconds windowNanos
  let window := if Quantity.atLeast window (Quantity.shortestWindow : α) then window
    else Quantity.shortestWindow
  { capacity := tokens, perSecond := Quantity.div tokens window }

namespace Bucket

variable {α : Type} [Quantity α]

/-- The bucket at a reading of the clock in nanoseconds. -/
def refill (rule : BucketRule α) (bucket : Bucket α) (now : Nat) : Bucket α :=
  let gained := Quantity.mul (Quantity.seconds (now - bucket.refilled)) rule.perSecond
  { tokens := Quantity.least (Quantity.add bucket.tokens gained) rule.capacity
    refilled := max now bucket.refilled }

/-- Take one token if there is one. -/
def take (rule : BucketRule α) (bucket : Bucket α) (now : Nat) : Bool × Bucket α :=
  let bucket := bucket.refill rule now
  if Quantity.atLeast bucket.tokens (Quantity.one : α) then
    (true, { bucket with tokens := Quantity.sub bucket.tokens Quantity.one })
  else (false, bucket)

end Bucket

/-- The buckets of all keys seen so far. -/
structure Limiter (α : Type) where
  rule : BucketRule α
  buckets : List (String × Bucket α)

namespace Limiter

variable {α : Type} [Quantity α]

/-- The bucket of a key; a key that was never seen has a full one. -/
def bucket (limiter : Limiter α) (key : String) (now : Nat) : Bucket α :=
  (limiter.buckets.lookup key).getD ⟨limiter.rule.capacity, now⟩

/-- Put a bucket in the place of the one its key had. -/
def store (buckets : List (String × Bucket α)) (key : String) (bucket : Bucket α) :
    List (String × Bucket α) :=
  match buckets with
  | [] => [(key, bucket)]
  | entry :: rest =>
      if entry.1 = key then (key, bucket) :: rest else entry :: store rest key bucket

/-- Take one token for a key. -/
def allow (limiter : Limiter α) (key : String) (now : Nat) : Bool × Limiter α :=
  let (allowed, next) := (limiter.bucket key now).take limiter.rule now
  (allowed, { limiter with buckets := store limiter.buckets key next })

/-- The number of keys with a bucket. -/
def trackedKeys (limiter : Limiter α) : Nat :=
  limiter.buckets.length

end Limiter

/-- A limiter with no keys yet. -/
def Limiter.ofWindow (capacity windowNanos : Nat) : Limiter Float :=
  { rule := .ofWindow capacity windowNanos, buckets := [] }

/-- The limiter of the settings. -/
def Limiter.ofSettings (settings : RateSettings) : Limiter Float :=
  .ofWindow settings.capacity (settings.windowSecs * 1000000000)

/-- The name of the bucket for a webhook key. -/
def webhookBucket (apiKey : String) : String :=
  "webhook:" ++ apiKey

end Caretaker
