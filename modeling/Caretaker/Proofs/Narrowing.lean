import Caretaker.Proofs.Decimal.Level
import Caretaker.Proofs.Operations
import Caretaker.Proofs.Store.Candidates

/-!
# Conditions only narrow

A condition is tightened when more is wanted of a subject: a matcher that was set keeps
its value, a bound that was set keeps it or moves inwards, and anything that was not set
may be set.  Whatever subject meets a tightened condition meets the condition itself.
A workflow asks for all of its conditions, so the same is true of a workflow whose
conditions are tightened, repeated, put in another order or joined by further ones.

Comparing numbers is no equivalence, since what is no number does not equal itself.  It
is transitive, and this is all that the argument needs.
-/

namespace Caretaker

open Calendar Text

/-- What the first matcher wants, the second one wants as well. -/
def WantsAlso {α : Type} [BEq α] (wanted wanted' : Option α) : Prop :=
  ∀ value ∈ wanted, ∃ value' ∈ wanted', value' = value ∨ (value' == value) = true

/-- The second range starts no earlier than the first. -/
def StartsLater (first first' : Option Instant) : Prop :=
  ∀ a ∈ first, ∃ a' ∈ first', a ≤ a'

/-- The second range ends no later than the first. -/
def EndsEarlier (last last' : Option Instant) : Prop :=
  ∀ b ∈ last, ∃ b' ∈ last', b' ≤ b

theorem WantsAlso.refl {α : Type} [BEq α] (wanted : Option α) : WantsAlso wanted wanted :=
  fun value set => ⟨value, set, .inl rfl⟩

theorem WantsAlso.of_filter {α : Type} [BEq α] {kept : α → Bool} (wanted : Option α) :
    WantsAlso (wanted.filter kept) wanted :=
  fun value set => ⟨value, (Option.mem_filter_iff.mp set).1, .inl rfl⟩

/-- Where comparing is equality, the second matcher is the first one. -/
theorem WantsAlso.eq_some {α : Type} [BEq α] [LawfulBEq α] {value : α} {wanted' : Option α}
    (also : WantsAlso (some value) wanted') : wanted' = some value := by
  obtain ⟨value', set, same | same⟩ := also value rfl
  · exact same ▸ set
  · exact eq_of_beq same ▸ set

theorem StartsLater.refl (first : Option Instant) : StartsLater first first :=
  fun a set => ⟨a, set, Int.le_refl _⟩

theorem EndsEarlier.refl (last : Option Instant) : EndsEarlier last last :=
  fun b set => ⟨b, set, Int.le_refl _⟩

/-! ## Matchers and ranges -/

theorem agrees_iff {α : Type} [BEq α] {wanted actual : Option α} :
    agrees wanted actual = true ↔ ∀ value ∈ wanted, ∃ given ∈ actual, (given == value) = true := by
  cases wanted with
  | none => simp [agrees]
  | some value => cases actual <;> simp [agrees]

theorem agrees_of_wantsAlso {α : Type} [BEq α] [PartialEquivBEq α]
    {wanted wanted' actual : Option α} (also : WantsAlso wanted wanted')
    (met : agrees wanted' actual = true) : agrees wanted actual = true := by
  rw [agrees_iff] at met ⊢
  intro value set
  obtain ⟨value', set', same⟩ := also value set
  obtain ⟨given, there, equal⟩ := met value' set'
  refine ⟨given, there, ?_⟩
  rcases same with rfl | same
  · exact equal
  · exact PartialEquivBEq.trans equal same

theorem admitsText_of_wantsAlso {wanted wanted' : Option String} {same : String → Bool}
    (also : WantsAlso wanted wanted') (met : Condition.admitsText wanted' same = true) :
    Condition.admitsText wanted same = true := by
  cases wanted with
  | none => rfl
  | some text => exact also.eq_some ▸ met

theorem within_iff {first last at_ : Option Instant} :
    within first last at_ = true ↔
      (∀ a ∈ first, ∃ t ∈ at_, a ≤ t) ∧ ∀ b ∈ last, ∃ t ∈ at_, t ≤ b := by
  cases first <;> cases last <;> cases at_ <;> simp [within]

theorem within_of_tighter {first first' last last' at_ : Option Instant}
    (later : StartsLater first first') (earlier : EndsEarlier last last')
    (inside : within first' last' at_ = true) : within first last at_ = true := by
  rw [within_iff] at inside ⊢
  obtain ⟨started, notOver⟩ := inside
  constructor
  · intro a set
    obtain ⟨a', set', tighter⟩ := later a set
    obtain ⟨t, there, after⟩ := started a' set'
    exact ⟨t, there, Int.le_trans tighter after⟩
  · intro b set
    obtain ⟨b', set', tighter⟩ := earlier b set
    obtain ⟨t, there, before⟩ := notOver b' set'
    exact ⟨t, there, Int.le_trans before tighter⟩

namespace Condition

/-- Every matcher that `c` sets is set to the same value, and every bound that `c` sets is
set to an equally or more restrictive instant. -/
structure Tightens (c' c : Condition) : Prop where
  alertName : WantsAlso c.alertName c'.alertName
  severity : WantsAlso c.severity c'.severity
  label : WantsAlso c.label c'.label
  value : WantsAlso c.value c'.value
  numberValue : WantsAlso c.numberValue c'.numberValue
  asset : WantsAlso c.asset c'.asset
  location : WantsAlso c.location c'.location
  user : WantsAlso c.user c'.user
  team : WantsAlso c.team c'.team
  vendor : WantsAlso c.vendor c'.vendor
  part : WantsAlso c.part c'.part
  category : WantsAlso c.category c'.category
  priority : WantsAlso c.priority c'.priority
  workOrderStatus : WantsAlso c.workOrderStatus c'.workOrderStatus
  purchaseOrderStatus : WantsAlso c.purchaseOrderStatus c'.purchaseOrderStatus
  createdTimeStart : StartsLater c.createdTimeStart c'.createdTimeStart
  createdTimeEnd : EndsEarlier c.createdTimeEnd c'.createdTimeEnd
  startDate : StartsLater c.startDate c'.startDate
  endDate : EndsEarlier c.endDate c'.endDate

theorem Tightens.refl (c : Condition) : c.Tightens c := by
  constructor
  all_goals first
    | exact WantsAlso.refl _
    | exact StartsLater.refl _
    | exact EndsEarlier.refl _

/-- Removing a blank text loosens a condition. -/
theorem tightens_normalized (c : Condition) : c.Tightens c.normalized := by
  constructor
  all_goals first
    | exact WantsAlso.refl _
    | exact WantsAlso.of_filter _
    | exact StartsLater.refl _
    | exact EndsEarlier.refl _

/-! ## Subjects -/

variable {c c' : Condition}

theorem Tightens.admitsCreation (tighter : c'.Tightens c) {createdAt : Instant}
    (met : c'.admitsCreation createdAt = true) : c.admitsCreation createdAt = true :=
  within_of_tighter tighter.createdTimeStart tighter.createdTimeEnd met

theorem Tightens.holdsForTicket (tighter : c'.Tightens c) {t : Ticket}
    (met : c'.holdsForTicket t = true) : c.holdsForTicket t = true := by
  simp only [Condition.holdsForTicket, Bool.and_eq_true] at met ⊢
  obtain ⟨⟨⟨⟨⟨⟨⟨⟨asset, location⟩, user⟩, team⟩, category⟩, priority⟩, status⟩, creation⟩, due⟩ :=
    met
  exact ⟨⟨⟨⟨⟨⟨⟨⟨agrees_of_wantsAlso tighter.asset asset,
    agrees_of_wantsAlso tighter.location location⟩,
    agrees_of_wantsAlso tighter.user user⟩,
    agrees_of_wantsAlso tighter.team team⟩,
    agrees_of_wantsAlso tighter.category category⟩,
    agrees_of_wantsAlso tighter.priority priority⟩,
    agrees_of_wantsAlso tighter.workOrderStatus status⟩,
    tighter.admitsCreation creation⟩,
    within_of_tighter tighter.startDate tighter.endDate due⟩

theorem Tightens.holdsForPurchaseOrder (tighter : c'.Tightens c) {o : PurchaseOrder}
    (met : c'.holdsForPurchaseOrder o = true) : c.holdsForPurchaseOrder o = true := by
  simp only [Condition.holdsForPurchaseOrder, Bool.and_eq_true] at met ⊢
  obtain ⟨⟨⟨vendor, category⟩, status⟩, creation⟩ := met
  exact ⟨⟨⟨agrees_of_wantsAlso tighter.vendor vendor,
    agrees_of_wantsAlso tighter.category category⟩,
    agrees_of_wantsAlso tighter.purchaseOrderStatus status⟩,
    tighter.admitsCreation creation⟩

theorem Tightens.holdsForPart (tighter : c'.Tightens c) {p : Part}
    (met : c'.holdsForPart p = true) : c.holdsForPart p = true := by
  simp only [Condition.holdsForPart, Bool.and_eq_true] at met ⊢
  obtain ⟨⟨⟨⟨part, vendor⟩, category⟩, quantity⟩, creation⟩ := met
  exact ⟨⟨⟨⟨agrees_of_wantsAlso tighter.part part,
    agrees_of_wantsAlso tighter.vendor vendor⟩,
    agrees_of_wantsAlso tighter.category category⟩,
    agrees_of_wantsAlso tighter.numberValue quantity⟩,
    tighter.admitsCreation creation⟩

theorem Tightens.holdsForTask (tighter : c'.Tightens c) {t : Task}
    (met : c'.holdsForTask t = true) : c.holdsForTask t = true := by
  simp only [Condition.holdsForTask, Bool.and_eq_true] at met ⊢
  obtain ⟨⟨⟨⟨label, value⟩, number⟩, asset⟩, creation⟩ := met
  exact ⟨⟨⟨⟨agrees_of_wantsAlso tighter.label label,
    agrees_of_wantsAlso tighter.value value⟩,
    agrees_of_wantsAlso tighter.numberValue number⟩,
    agrees_of_wantsAlso tighter.asset asset⟩,
    tighter.admitsCreation creation⟩

theorem Tightens.holdsForAlert (tighter : c'.Tightens c) {a : Alert}
    (met : c'.holdsForAlert a = true) : c.holdsForAlert a = true := by
  simp only [Condition.holdsForAlert, Bool.and_eq_true] at met ⊢
  obtain ⟨name, severity⟩ := met
  exact ⟨admitsText_of_wantsAlso tighter.alertName name,
    admitsText_of_wantsAlso tighter.severity severity⟩

theorem Tightens.holds (tighter : c'.Tightens c) {subject : Subject}
    (met : c'.holds subject = true) : c.holds subject = true := by
  cases subject with
  | workOrder order => exact tighter.holdsForTicket met
  | request request => exact tighter.holdsForTicket met
  | purchaseOrder order => exact tighter.holdsForPurchaseOrder met
  | part part => exact tighter.holdsForPart met
  | task task => exact tighter.holdsForTask met
  | alert alert => exact tighter.holdsForAlert met

/-! ## Blank texts and matchers without a counterpart -/

theorem unlessBlank_twice (text : Option String) :
    unlessBlank (unlessBlank text) = unlessBlank text := by
  simp [unlessBlank, Option.filter_filter]

theorem normalized_twice (c : Condition) : c.normalized.normalized = c.normalized := by
  simp only [normalized, unlessBlank_twice]

/-- The matchers of a condition that have a counterpart on the subjects of a trigger; the
others are removed. -/
def counterparts (c : Condition) : Trigger → Condition
  | .workOrder | .request =>
      { empty with
        asset := c.asset, location := c.location, user := c.user, team := c.team
        category := c.category, priority := c.priority, workOrderStatus := c.workOrderStatus
        createdTimeStart := c.createdTimeStart, createdTimeEnd := c.createdTimeEnd
        startDate := c.startDate, endDate := c.endDate }
  | .purchaseOrder =>
      { empty with
        vendor := c.vendor, category := c.category, purchaseOrderStatus := c.purchaseOrderStatus
        createdTimeStart := c.createdTimeStart, createdTimeEnd := c.createdTimeEnd }
  | .part =>
      { empty with
        part := c.part, vendor := c.vendor, category := c.category, numberValue := c.numberValue
        createdTimeStart := c.createdTimeStart, createdTimeEnd := c.createdTimeEnd }
  | .task =>
      { empty with
        label := c.label, value := c.value, numberValue := c.numberValue, asset := c.asset
        createdTimeStart := c.createdTimeStart, createdTimeEnd := c.createdTimeEnd }
  | .webhook => { empty with alertName := c.alertName, severity := c.severity }

theorem holds_counterparts (c : Condition) (subject : Subject) :
    (c.counterparts subject.trigger).holds subject = c.holds subject := by
  cases subject <;> rfl

end Condition

/-! ## Workflows -/

namespace Workflow

variable {w w' : Workflow} {subject : Subject}

theorem matchesSubject_of_tightened
    (tighter : ∀ c ∈ w.conditions, ∃ c' ∈ w'.conditions, c'.Tightens c)
    (met : w'.matchesSubject subject = true) : w.matchesSubject subject = true := by
  rw [matchesSubject_iff] at met ⊢
  intro c listed
  obtain ⟨c', listed', tightens⟩ := tighter c listed
  exact tightens.holds (met c' listed')

/-- Further conditions are a tightening. -/
theorem matchesSubject_of_subset (more : w.conditions ⊆ w'.conditions)
    (met : w'.matchesSubject subject = true) : w.matchesSubject subject = true :=
  matchesSubject_of_tightened (fun c listed => ⟨c, more listed, .refl c⟩) met

/-- Only which conditions there are counts, not their order, nor how often they stand there. -/
theorem matchesSubject_congr (same : ∀ c, c ∈ w.conditions ↔ c ∈ w'.conditions) :
    w.matchesSubject subject = w'.matchesSubject subject := by
  rw [Bool.eq_iff_iff]
  constructor
  · exact matchesSubject_of_subset fun c listed => (same c).mpr listed
  · exact matchesSubject_of_subset fun c listed => (same c).mp listed

end Workflow

/-- What a condition asks for is never more than what a tightening of it asks for, whatever
subject is looked at.  Removing blank texts loosens, and does so once; matchers without a
counterpart on the subject do not count.  A workflow does not look at the order of its
conditions or at repetitions, and conditions that are added or tightened make it match less. -/
theorem conditions_only_narrow (subject : Subject) :
    (∀ c c' : Condition, c'.Tightens c → c'.holds subject = true → c.holds subject = true) ∧
    (∀ c : Condition, c.holds subject = true → c.normalized.holds subject = true) ∧
    (∀ c : Condition, c.normalized.normalized = c.normalized) ∧
    (∀ c c' : Condition, c.counterparts subject.trigger = c'.counterparts subject.trigger →
      c.holds subject = c'.holds subject) ∧
    (∀ w w' : Workflow, (∀ c, c ∈ w.conditions ↔ c ∈ w'.conditions) →
      w.matchesSubject subject = w'.matchesSubject subject) ∧
    ∀ w w' : Workflow, (∀ c ∈ w.conditions, ∃ c' ∈ w'.conditions, c'.Tightens c) →
      w.matchesSubject subject = false → w'.matchesSubject subject = false := by
  refine ⟨fun c c' tighter met => tighter.holds met, fun c met => ?_, Condition.normalized_twice,
    fun c c' same => ?_, fun w w' same => Workflow.matchesSubject_congr same,
    fun w w' tighter unmet => ?_⟩
  · exact (Condition.tightens_normalized c).holds met
  · rw [← Condition.holds_counterparts c, same, Condition.holds_counterparts]
  · rw [← Bool.not_eq_true] at unmet ⊢
    exact fun met => unmet (Workflow.matchesSubject_of_tightened tighter met)

/-- Due in 2026 or later; the blank name wants nothing of an alert. -/
def dueSince : Condition :=
  { Condition.empty with
    alertName := some " ", startDate := some (Desk.newYear 2026 Desk.isDate_newYear2026) }

/-- Due in 2026 at the very beginning, and urgent. -/
def dueThen : Condition :=
  { dueSince with
    priority := some .high, endDate := some (Desk.newYear 2026 Desk.isDate_newYear2026) }

/-- An urgent order that was due when 2026 began. -/
def urgentLamp : WorkOrder :=
  { Ticket.fresh (Uuid.ofNat 9) (Uuid.ofNat 7) (Desk.newYear 2026 Desk.isDate_newYear2026)
      "Lamp" with
    priority := .high, dueDate := some (Desk.newYear 2026 Desk.isDate_newYear2026), number := none }

/-- What meets the narrower of the two conditions meets the wider one and its normalized
form. -/
theorem conditions_only_narrow_urgentLamp :
    dueThen.Tightens dueSince ∧ dueThen.holds (.workOrder urgentLamp) = true ∧
      dueSince.holds (.workOrder urgentLamp) = true ∧
      dueSince.normalized.holds (.workOrder urgentLamp) = true := by
  have tighter : dueThen.Tightens dueSince :=
    { Condition.Tightens.refl dueSince with
      priority := by rintro _ ⟨⟩
      endDate := by rintro _ ⟨⟩ }
  have urgent : dueThen.holds (.workOrder urgentLamp) = true := by decide
  obtain ⟨narrows, normalizes, _⟩ := conditions_only_narrow (.workOrder urgentLamp)
  have due : dueSince.holds (.workOrder urgentLamp) = true := narrows _ _ tighter urgent
  exact ⟨tighter, urgent, due, normalizes _ due⟩

end Caretaker
