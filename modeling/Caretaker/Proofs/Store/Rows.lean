import Caretaker.Proofs.Calendar.StoredForm
import Caretaker.Proofs.Uuid
import Caretaker.Proofs.Vocabulary
import Caretaker.Store.Basic

/-!
# Rows that read back

A row that was written from a value is read back as that value, with one exception:
the reader fails when an instant of the value is not legible.  Each value lists its
instants, and each reader is characterized by them.

Numbers are kept up to what a column of reals keeps of them.  Zero loses its sign,
and what is no number is not kept at all; what remains of a value is its stored
form.
-/

namespace Caretaker

open Calendar

/-- All of the instants can be read back once they are stored. -/
def AllLegible (instants : List Instant) : Prop :=
  ∀ t ∈ instants, t.Legible

@[simp]
theorem allLegible_nil : AllLegible [] := by
  simp [AllLegible]

@[simp]
theorem allLegible_cons {t : Instant} {rest : List Instant} :
    AllLegible (t :: rest) ↔ t.Legible ∧ AllLegible rest := by
  simp [AllLegible]

@[simp]
theorem allLegible_append {front back : List Instant} :
    AllLegible (front ++ back) ↔ AllLegible front ∧ AllLegible back := by
  simp [AllLegible, or_imp, forall_and]

/-! ## Jobs that end well -/

section

variable {ε α β : Type}

theorem bind_eq_ok_iff {first : Except ε α} {next : α → Except ε β} {result : β} :
    first >>= next = .ok result ↔ ∃ value, first = .ok value ∧ next value = .ok result := by
  cases first <;> simp [bind, Except.bind]

@[simp]
theorem ok_bind {value : α} {next : α → Except ε β} :
    (Except.ok value : Except ε α) >>= next = next value :=
  rfl

/-- A refusal ends what would come after it. -/
theorem refuse_eq_ok_iff {refused : Bool} {error : ε} {next : Unit → Except ε β}
    {rest : Except ε β} {result : β} :
    (if refused then (throw error : Except ε Unit) >>= next else rest) = .ok result ↔
      refused = false ∧ rest = .ok result := by
  cases refused <;> simp [throw, throwThe, MonadExceptOf.throw, bind, Except.bind]

theorem pure_eq_ok_iff {value result : α} :
    (pure value : Except ε α) = .ok result ↔ value = result := by
  simp [pure, Except.pure]

end

/-! ## Cells -/

namespace Stored

@[simp]
theorem uuid_text (id : Uuid) : uuid id.text = .ok id := by
  simp [uuid, Uuid.parse?_text]

@[simp]
theorem exact_word {α : Type} [Json.Worded α] [LawfulWorded α] (member : α) :
    exact (Json.word member) = .ok member := by
  simp [exact]

@[simp]
theorem loose_word {α : Type} [Vocabulary α] [LawfulVocabulary α] (member : α) :
    loose (Json.word member) = .ok member := by
  simp [loose]

theorem instant_eq_ok_iff {t u : Instant} :
    instant t.storedText = .ok u ↔ t.Legible ∧ t = u := by
  by_cases legible : t.Legible <;> simp [instant, Instant.readStored?_storedText, legible]

@[simp]
theorem opt_uuidText (id : Option Uuid) : opt uuid (uuidText id) = .ok id := by
  cases id <;> simp [opt, uuidText]

@[simp]
theorem opt_wordText {α : Type} [Json.Worded α] [LawfulWorded α] (member : Option α) :
    opt exact (wordText member) = .ok member := by
  cases member <;> simp [opt, wordText]

theorem opt_instantText_eq_ok_iff {t u : Option Instant} :
    opt instant (instantText t) = .ok u ↔ AllLegible t.toList ∧ t = u := by
  cases t with
  | none => simp [opt, instantText, eq_comm]
  | some t =>
      by_cases legible : t.Legible <;>
        simp [opt, instantText, instant, Instant.readStored?_storedText, legible]

end Stored

/-- What a column of reals keeps of a number. -/
def storedNumber (x : Option Float) : Option Float :=
  x.bind fun x => if x.isNaN then none else some (if x == 0.0 then 0.0 else x)

namespace Cell

@[simp]
theorem bool_ofBool (column : String) (b : Bool) : (ofBool b).bool column = .ok b := by
  cases b <;> rfl

@[simp]
theorem float?_ofFloat? (column : String) (x : Option Float) :
    (ofFloat? x).float? column = .ok (storedNumber x) := by
  cases x with
  | none => rfl
  | some x =>
      simp only [ofFloat?, storedNumber, Option.bind_some]
      split <;> rfl

end Cell

/-! ## Users, configurations and assets -/

/-- The row of a user can always be read. -/
@[simp]
theorem UserRow.user_ofUser (user : User) : (ofUser user).user = .ok user := by
  obtain ⟨id, companyId, email, role⟩ := user
  simp [UserRow.user, ofUser, pure, Except.pure]

theorem UserRow.ofUser_injective : Function.Injective ofUser := by
  intro a b same
  have read := congrArg UserRow.user same
  rw [user_ofUser, user_ofUser] at read
  exact Except.ok.inj read

/-- The instants of a configuration. -/
def WebhookConfig.instants (config : WebhookConfig) : List Instant :=
  [config.createdAt, config.updatedAt]

theorem ConfigRow.config_ofConfig_eq_ok_iff {config found : WebhookConfig} :
    (ofConfig config).config = .ok found ↔ AllLegible config.instants ∧ config = found := by
  obtain ⟨id, companyId, apiKey, enabled, createdAt, updatedAt⟩ := config
  simp only [ConfigRow.config, ofConfig, bind_eq_ok_iff, pure_eq_ok_iff, Cell.bool_ofBool,
    Stored.uuid_text, Stored.instant_eq_ok_iff, WebhookConfig.instants, allLegible_cons,
    allLegible_nil, Except.ok.injEq]
  grind

/-- The instants of an asset. -/
def Asset.instants (asset : Asset) : List Instant :=
  [asset.createdAt]

theorem AssetRow.asset_ofAsset_eq_ok_iff {asset found : Asset} :
    (ofAsset asset).asset = .ok found ↔ AllLegible asset.instants ∧ asset = found := by
  obtain ⟨id, companyId, name, status, createdAt⟩ := asset
  simp only [AssetRow.asset, ofAsset, bind_eq_ok_iff, pure_eq_ok_iff, Stored.uuid_text,
    Stored.exact_word, Stored.instant_eq_ok_iff, Asset.instants, allLegible_cons,
    allLegible_nil, Except.ok.injEq]
  grind

theorem AssetRow.id_ofAsset (asset : Asset) : (ofAsset asset).id = asset.id.text :=
  rfl

theorem AssetRow.id_merge (old new : AssetRow) : (merge old new).id = old.id :=
  rfl

/-! ## Tickets -/

/-- The instants of a ticket. -/
def Ticket.instants (t : Ticket) : List Instant :=
  t.dueDate.toList ++ [t.createdAt]

theorem TicketRow.ticket_ofTicket_eq_ok_iff {t found : Ticket} :
    (ofTicket t).ticket = .ok found ↔ AllLegible t.instants ∧ t = found := by
  obtain ⟨id, companyId, title, description, priority, status, assetId, locationId, userId, teamId,
    categoryId, dueDate, createdAt⟩ := t
  simp only [TicketRow.ticket, ofTicket, bind_eq_ok_iff, pure_eq_ok_iff, Stored.uuid_text,
    Stored.loose_word, Stored.opt_uuidText, Stored.opt_instantText_eq_ok_iff,
    Stored.instant_eq_ok_iff, Ticket.instants, allLegible_append, allLegible_cons,
    allLegible_nil, Except.ok.injEq]
  grind

theorem WorkOrderRow.order_ofOrder_eq_ok_iff {order found : WorkOrder} :
    (ofOrder order).order = .ok found ↔ AllLegible order.toTicket.instants ∧ order = found := by
  obtain ⟨ticket, number⟩ := order
  simp only [WorkOrderRow.order, ofOrder, bind_eq_ok_iff, pure_eq_ok_iff,
    TicketRow.ticket_ofTicket_eq_ok_iff]
  grind

/-! ## Workflows -/

namespace Condition

/-- The instants that a condition bounds its ranges with. -/
def instants (c : Condition) : List Instant :=
  c.createdTimeStart.toList ++ c.createdTimeEnd.toList ++ c.startDate.toList ++ c.endDate.toList

/-- What the store keeps of a condition. -/
def stored (c : Condition) : Condition :=
  { c with numberValue := storedNumber c.numberValue }

end Condition

theorem ConditionRow.condition_ofCondition_eq_ok_iff {id workflowId : Uuid} {position : Nat}
    {c found : Condition} :
    (ofCondition id workflowId position c).condition = .ok found ↔
      AllLegible c.instants ∧ c.stored = found := by
  obtain ⟨alertName, severity, label, value, numberValue, asset, location, user, team, vendor, part,
    category, priority, workOrderStatus, purchaseOrderStatus, createdTimeStart, createdTimeEnd,
    startDate, endDate⟩ := c
  simp only [ConditionRow.condition, ofCondition, bind_eq_ok_iff, pure_eq_ok_iff,
    Cell.float?_ofFloat?, Stored.uuid_text, Stored.opt_uuidText, Stored.opt_wordText,
    Stored.opt_instantText_eq_ok_iff, Condition.instants, Condition.stored, allLegible_append,
    Except.ok.injEq]
  grind

/-- What the store keeps of an action. -/
def Action.stored (a : Action) : Action :=
  { a with numberValue := storedNumber a.numberValue }

@[simp]
theorem ActionRow.numberValue_ofAction (id : Uuid) (a : Action) :
    (ofAction id a).numberValue = .ofFloat? a.numberValue :=
  rfl

/-- Reading the row of an action gives the action with whatever number was read. -/
@[simp]
theorem ActionRow.action_ofAction (id : Uuid) (a : Action) (numberValue : Option Float) :
    (ofAction id a).action numberValue = .ok { a with numberValue } := by
  obtain ⟨⟩ := a
  simp [ActionRow.action, ofAction, bind, Except.bind, pure, Except.pure]

namespace Workflow

/-- What the store keeps of a workflow. -/
def stored (w : Workflow) : Workflow :=
  { w with conditions := w.conditions.map Condition.stored, action := w.action.stored }

/-- The workflow without its conditions, as the row of a workflow and the row of its
action have it together. -/
def bare (w : Workflow) : Workflow :=
  { w with conditions := [], action := w.action.stored }

/-- The instants of a workflow itself, without those of its conditions. -/
def ownInstants (w : Workflow) : List Instant :=
  [w.createdAt, w.updatedAt]

/-- The instants of a workflow and of its conditions. -/
def instants (w : Workflow) : List Instant :=
  w.ownInstants ++ w.conditions.flatMap Condition.instants

end Workflow

theorem WorkflowRow.workflow_ofWorkflow_eq_ok_iff {actionId actionId' : Uuid}
    {w found : Workflow} :
    (ofWorkflow actionId w).workflow (.ofAction actionId' w.action) = .ok found ↔
      AllLegible w.ownInstants ∧ w.bare = found := by
  obtain ⟨id, companyId, title, trigger, conditions, action, enabled, createdAt, updatedAt⟩ := w
  simp only [WorkflowRow.workflow, ofWorkflow, bind_eq_ok_iff, pure_eq_ok_iff, Cell.bool_ofBool,
    ActionRow.numberValue_ofAction, ActionRow.action_ofAction, Cell.float?_ofFloat?,
    Stored.loose_word, Stored.uuid_text, Stored.instant_eq_ok_iff, Workflow.ownInstants,
    Workflow.bare, Action.stored, allLegible_cons, allLegible_nil, Except.ok.injEq]
  grind

end Caretaker
