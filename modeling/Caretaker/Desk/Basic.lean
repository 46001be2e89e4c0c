import Caretaker.RateLimit
import Caretaker.Store.Maintenance
import Caretaker.Store.Tenants
import Caretaker.Store.Workflows

/-!
# The desk

A desk is everything the service holds between two calls: the store, the buckets of
the rate limiter, the mail it has sent, and where it takes new identifiers and
clock readings from.  A job is one piece of work at a desk.  It ends with a result
or with an error, and either way leaves the desk behind as its last step did; or it
stalls and never ends.

Every access to the store goes through a channel.  A channel can be out of order,
and then fails or stalls before anything happens.
-/

namespace Caretaker

open Calendar

/-- A message to an administrator. -/
structure Mail where
  recipient : String
  subject : String
  body : String
  deriving DecidableEq

/-- Where new identifiers, keys and clock readings come from.  Each is drawn by its
running number. -/
structure Source where
  id : Nat → Uuid
  now : Nat → Instant
  nanos : Nat → Nat
  drawn : Nat

/-- The ways to the store and to the mail relay. -/
inductive Channel where
  | createWorkflow
  | findWorkflow
  | listWorkflows
  | matchWorkflows
  | setWorkflowsEnabled
  | deleteWorkflow
  | saveWorkOrder
  | saveRequest
  | savePurchaseOrder
  | saveAsset
  | findAsset
  | findWorkOrder
  | listWorkOrders
  | listRequests
  | nextOrderNumber
  | createConfig
  | findConfigOfCompany
  | findConfigByKey
  | updateConfig
  | deleteConfig
  | createCompany
  | findCompany
  | createUser
  | findAdmins
  | sendMail
  deriving DecidableEq

/-- How a channel is out of order. -/
inductive Outage where
  | fails (error : StoreError)
  | stalls
  deriving DecidableEq

/-- Everything the service holds between two calls. -/
structure Desk where
  store : Store
  limiter : Limiter Float
  outbox : List Mail
  source : Source
  outages : List (Channel × Outage)

/-- How a job ended. -/
inductive Outcome (ε α : Type) where
  | done (value : α)
  | failed (error : ε)
  | stalled

/-- A piece of work at a desk. -/
structure Job (ε α : Type) where
  run : Desk → Outcome ε α × Desk

namespace Job

variable {ε δ α β : Type}

/-- Have a result already. -/
protected def pure (value : α) : Job ε α :=
  ⟨fun desk => (.done value, desk)⟩

/-- Go on with the result of the first job. -/
protected def bind (first : Job ε α) (next : α → Job ε β) : Job ε β :=
  ⟨fun desk => match first.run desk with
    | (.done value, desk) => (next value).run desk
    | (.failed error, desk) => (.failed error, desk)
    | (.stalled, desk) => (.stalled, desk)⟩

instance : Monad (Job ε) where
  pure := Job.pure
  bind := Job.bind

@[simp]
theorem run_pure (value : α) (desk : Desk) :
    (pure value : Job ε α).run desk = (.done value, desk) :=
  rfl

@[simp]
theorem run_bind (first : Job ε α) (next : α → Job ε β) (desk : Desk) :
    (first >>= next).run desk = match first.run desk with
      | (.done value, desk) => (next value).run desk
      | (.failed error, desk) => (.failed error, desk)
      | (.stalled, desk) => (.stalled, desk) :=
  rfl

/-- End with an error. -/
def fail (error : ε) : Job ε α :=
  ⟨fun desk => (.failed error, desk)⟩

@[simp]
theorem run_fail (error : ε) (desk : Desk) :
    (fail error : Job ε α).run desk = (.failed error, desk) :=
  rfl

/-- Report errors in other terms. -/
def mapError (f : ε → δ) (job : Job ε α) : Job δ α :=
  ⟨fun desk => match job.run desk with
    | (.done value, desk) => (.done value, desk)
    | (.failed error, desk) => (.failed (f error), desk)
    | (.stalled, desk) => (.stalled, desk)⟩

/-- Take the result of a job as a value, so that its errors end nothing. -/
def attempt (job : Job ε α) : Job δ (Except ε α) :=
  ⟨fun desk => match job.run desk with
    | (.done value, desk) => (.done (.ok value), desk)
    | (.failed error, desk) => (.done (.error error), desk)
    | (.stalled, desk) => (.stalled, desk)⟩

/-- Take the way a job ended as a value, also when it stalled. -/
def supervise (job : Job ε α) : Job δ (Outcome ε α) :=
  ⟨fun desk => match job.run desk with
    | (outcome, desk) => (.done outcome, desk)⟩

/-- A result, or the error given for its absence. -/
def orFail (error : ε) (value : Option α) : Job ε α :=
  match value with
  | some value => pure value
  | none => fail error

/-! ## Drawing from the source -/

/-- A new identifier. -/
def freshId : Job ε Uuid :=
  ⟨fun desk =>
    (.done (desk.source.id desk.source.drawn),
      { desk with source := { desk.source with drawn := desk.source.drawn + 1 } })⟩

/-- As many new identifiers as asked for. -/
def freshIds (count : Nat) : Job ε (Nat → Uuid) :=
  ⟨fun desk =>
    (.done fun i => desk.source.id (desk.source.drawn + i),
      { desk with source := { desk.source with drawn := desk.source.drawn + count } })⟩

/-- The time of day. -/
def now : Job ε Instant :=
  ⟨fun desk =>
    (.done (desk.source.now desk.source.drawn),
      { desk with source := { desk.source with drawn := desk.source.drawn + 1 } })⟩

/-- A reading of the clock that the rate limiter goes by, in nanoseconds. -/
def nanos : Job ε Nat :=
  ⟨fun desk =>
    (.done (desk.source.nanos desk.source.drawn),
      { desk with source := { desk.source with drawn := desk.source.drawn + 1 } })⟩

/-! ## Channels -/

/-- Do the work unless the channel is out of order. -/
def through (channel : Channel) (job : Job StoreError α) : Job StoreError α :=
  ⟨fun desk => match desk.outages.lookup channel with
    | some (.fails error) => (.failed error, desk)
    | some .stalls => (.stalled, desk)
    | none => job.run desk⟩

/-- Read from the store. -/
def read (f : Store → Except StoreError α) : Job StoreError α :=
  ⟨fun desk => match f desk.store with
    | .ok value => (.done value, desk)
    | .error error => (.failed error, desk)⟩

/-- Change the store and have a result. -/
def change (f : Store → Except StoreError (α × Store)) : Job StoreError α :=
  ⟨fun desk => match f desk.store with
    | .ok (value, store) => (.done value, { desk with store })
    | .error error => (.failed error, desk)⟩

/-- Change the store. -/
def write (f : Store → Except StoreError Store) : Job StoreError Unit :=
  ⟨fun desk => match f desk.store with
    | .ok store => (.done (), { desk with store })
    | .error error => (.failed error, desk)⟩

/-- Take a token from a bucket of the limiter. -/
def takeToken (bucket : String) : Job ε Bool := do
  let reading ← nanos
  ⟨fun desk =>
    let (allowed, limiter) := desk.limiter.allow bucket reading
    (.done allowed, { desk with limiter })⟩

end Job

end Caretaker
