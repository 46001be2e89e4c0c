import Caretaker.Alert.Basic
import Caretaker.Workflow.Basic

/-!
# Which workflow acts

A subject is checked against the matchers that mean something for its kind; other
matchers of a condition are passed over.  A bounded range of instants is not met
by an absent one.  Of the enabled workflows whose conditions all hold, the first in
the given order acts.  A company on a restricted plan keeps the workflow that was
created first.
-/

namespace Caretaker

open Calendar Text

/-- What a workflow can be set off by. -/
inductive Subject where
  | workOrder (order : WorkOrder)
  | request (request : Request)
  | purchaseOrder (order : PurchaseOrder)
  | part (part : Part)
  | task (task : Task)
  | alert (alert : Alert)

/-- The trigger of workflows that look at the subject. -/
def Subject.trigger : Subject → Trigger
  | .workOrder _ => .workOrder
  | .request _ => .request
  | .purchaseOrder _ => .purchaseOrder
  | .part _ => .part
  | .task _ => .task
  | .alert _ => .webhook

/-- The value is the wanted one, if one is wanted. -/
def agrees {α : Type} [BEq α] (wanted actual : Option α) : Bool :=
  match wanted with
  | none => true
  | some value => actual == some value

/-- The instant lies between the bounds that are given, both included. -/
def within (first last at_ : Option Instant) : Bool :=
  match first, last, at_ with
  | none, none, _ => true
  | _, _, none => false
  | some a, none, some t => a ≤ t
  | none, some b, some t => t ≤ b
  | some a, some b, some t => a ≤ t && t ≤ b

namespace Condition

/-- The creation time lies in the range of the condition. -/
def admitsCreation (c : Condition) (createdAt : Instant) : Bool :=
  within c.createdTimeStart c.createdTimeEnd (some createdAt)

/-- The ticket meets the condition. -/
def holdsForTicket (c : Condition) (t : Ticket) : Bool :=
  agrees c.asset t.assetId && agrees c.location t.locationId && agrees c.user t.userId &&
    agrees c.team t.teamId && agrees c.category t.categoryId &&
    agrees c.priority (some t.priority) && agrees c.workOrderStatus (some t.status) &&
    c.admitsCreation t.createdAt && within c.startDate c.endDate t.dueDate

/-- The purchase order meets the condition. -/
def holdsForPurchaseOrder (c : Condition) (o : PurchaseOrder) : Bool :=
  agrees c.vendor o.vendorId && agrees c.category o.categoryId &&
    agrees c.purchaseOrderStatus (some o.status) && c.admitsCreation o.createdAt

/-- The part meets the condition. -/
def holdsForPart (c : Condition) (p : Part) : Bool :=
  agrees c.part (some p.id) && agrees c.vendor p.vendorId && agrees c.category p.categoryId &&
    agrees c.numberValue (some p.quantity) && c.admitsCreation p.createdAt

/-- The task meets the condition. -/
def holdsForTask (c : Condition) (t : Task) : Bool :=
  agrees c.label (some t.label) && agrees c.value t.value &&
    agrees c.numberValue t.numberValue && agrees c.asset t.assetId &&
    c.admitsCreation t.createdAt

/-- The text satisfies a matcher for which an empty text wants nothing. -/
def admitsText (wanted : Option String) (same : String → Bool) : Bool :=
  match wanted with
  | none => true
  | some text => text.isEmpty || same text

/-- The alert meets the condition.  Severities are compared without the case of
their ASCII letters. -/
def holdsForAlert (c : Condition) (a : Alert) : Bool :=
  admitsText c.alertName (· == a.alertName) &&
    admitsText c.severity (eqIgnoringAsciiCase · a.severity)

/-- The subject meets the condition. -/
def holds (c : Condition) : Subject → Bool
  | .workOrder order => c.holdsForTicket order.toTicket
  | .request request => c.holdsForTicket request.toTicket
  | .purchaseOrder order => c.holdsForPurchaseOrder order
  | .part part => c.holdsForPart part
  | .task task => c.holdsForTask task
  | .alert alert => c.holdsForAlert alert

/-- Why no ticket can meet a condition. -/
inductive RangeError where
  | creation
  | dueDate
  deriving DecidableEq

/-- How an impossible range is reported. -/
def RangeError.message : RangeError → String
  | .creation => "createdTimeStart is after createdTimeEnd"
  | .dueDate => "startDate is after endDate"

/-- The range ends before it starts. -/
def reversed (first last : Option Instant) : Bool :=
  match first, last with
  | some a, some b => b < a
  | _, _ => false

/-- Both ranges of a condition have to be possible. -/
def checkRanges (c : Condition) : Except RangeError Unit :=
  if reversed c.createdTimeStart c.createdTimeEnd then .error .creation
  else if reversed c.startDate c.endDate then .error .dueDate
  else .ok ()

end Condition

namespace Workflow

/-- All conditions of the workflow hold. -/
def matchesSubject (w : Workflow) (subject : Subject) : Bool :=
  w.conditions.all fun c => c.holds subject

/-- The first enabled workflow whose conditions hold. -/
def firstMatch (workflows : List Workflow) (subject : Subject) : Option Workflow :=
  workflows.find? fun w => w.enabled && w.matchesSubject subject

/-- `a` was created before `b`; identifiers decide between equal times. -/
def createdBefore (a b : Workflow) : Bool :=
  a.createdAt < b.createdAt ||
    (a.createdAt == b.createdAt && decide (a.id < b.id))

/-- The workflow that a restricted plan keeps. -/
def survivor : List Workflow → Option Workflow
  | [] => none
  | w :: rest => some (rest.foldl (fun best other => if other.createdBefore best then other else best) w)

end Workflow

end Caretaker
