import Caretaker.Proofs.Store.Assembly
import Caretaker.Proofs.Store.Reachable

/-!
# Stores that can be read

Identifiers, words, truth values and numbers are always read back.  The only texts
that can spoil an answer are those of instants, and of these exactly the ones that
were written for a year before 0 or after 9999.  A store is legible when it has no
such text in a column that is ever read again.

Besides, the workflows of a company are read together, and can be too many for that.
-/

namespace Caretaker

open Calendar

/-! ## Texts of instants -/

/-- The text was written for an instant that can be read back. -/
def LegibleText (text : String) : Prop :=
  ∃ t : Instant, t.Legible ∧ t.storedText = text

/-- No other instant has the stored text of a legible one. -/
theorem legibleText_storedText_iff {t : Instant} : LegibleText t.storedText ↔ t.Legible := by
  constructor
  · rintro ⟨u, legible, same⟩
    have readBack := Instant.readStored?_of_legible legible
    rw [same, Instant.readStored?_storedText] at readBack
    by_contra illegible
    rw [if_neg illegible] at readBack
    contradiction
  · intro legible
    exact ⟨t, legible, rfl⟩

theorem legibleTexts_iff {instants : List Instant} :
    (∀ text ∈ instants.map Instant.storedText, LegibleText text) ↔ AllLegible instants := by
  rw [List.forall_mem_map]
  exact forall₂_congr fun _ _ => legibleText_storedText_iff

/-- The texts of instants in a row of `webhook_configs`. -/
def ConfigRow.instantTexts (row : ConfigRow) : List String :=
  [row.createdAt, row.updatedAt]

theorem ConfigRow.instantTexts_ofConfig (config : WebhookConfig) :
    (ofConfig config).instantTexts = config.instants.map Instant.storedText :=
  rfl

/-- The texts of instants in a row of `assets`. -/
def AssetRow.instantTexts (row : AssetRow) : List String :=
  [row.createdAt]

theorem AssetRow.instantTexts_ofAsset (asset : Asset) :
    (ofAsset asset).instantTexts = asset.instants.map Instant.storedText :=
  rfl

/-- The texts of instants in the columns of a ticket. -/
def TicketRow.instantTexts (row : TicketRow) : List String :=
  row.dueDate.toList ++ [row.createdAt]

theorem TicketRow.instantTexts_ofTicket (t : Ticket) :
    (ofTicket t).instantTexts = t.instants.map Instant.storedText := by
  cases due : t.dueDate <;> simp [instantTexts, ofTicket, Ticket.instants, Stored.instantText, due]

/-- The texts of instants in a row of `work_orders`. -/
def WorkOrderRow.instantTexts (row : WorkOrderRow) : List String :=
  row.toTicketRow.instantTexts

theorem WorkOrderRow.instantTexts_ofOrder (order : WorkOrder) :
    (ofOrder order).instantTexts = order.toTicket.instants.map Instant.storedText :=
  TicketRow.instantTexts_ofTicket order.toTicket

/-- The texts of instants in a row of `workflows`. -/
def WorkflowRow.instantTexts (row : WorkflowRow) : List String :=
  [row.createdAt, row.updatedAt]

theorem WorkflowRow.instantTexts_ofWorkflow (actionId : Uuid) (w : Workflow) :
    (ofWorkflow actionId w).instantTexts = w.ownInstants.map Instant.storedText :=
  rfl

/-- The texts of instants in a row of `workflow_conditions`. -/
def ConditionRow.instantTexts (row : ConditionRow) : List String :=
  row.createdTimeStart.toList ++ row.createdTimeEnd.toList ++ row.startDate.toList ++
    row.endDate.toList

theorem toList_instantText (t : Option Instant) :
    (Stored.instantText t).toList = t.toList.map Instant.storedText := by
  cases t <;> rfl

theorem ConditionRow.instantTexts_ofCondition (id workflowId : Uuid) (position : Nat)
    (c : Condition) :
    (ofCondition id workflowId position c).instantTexts = c.instants.map Instant.storedText := by
  simp [instantTexts, ofCondition, Condition.instants, toList_instantText]

namespace Entry

/-- The texts of instants in the rows of an entry. -/
theorem instantTexts_iff (e : Entry) :
    (∀ text ∈ e.row.instantTexts, LegibleText text) ∧
        (∀ row ∈ e.conditionRows, ∀ text ∈ row.instantTexts, LegibleText text) ↔
      AllLegible e.workflow.instants := by
  have own : (∀ text ∈ e.row.instantTexts, LegibleText text) ↔
      AllLegible e.workflow.ownInstants := by
    rw [row, WorkflowRow.instantTexts_ofWorkflow]
    exact legibleTexts_iff
  have conditions : (∀ row ∈ e.conditionRows, ∀ text ∈ row.instantTexts, LegibleText text) ↔
      AllLegible (e.workflow.conditions.flatMap Condition.instants) := by
    rw [← e.map_row_placed, ← e.map_condition_placed, List.forall_mem_map]
    simp only [AllLegible, List.flatMap_map, List.mem_flatMap, PlacedCondition.row,
      ConditionRow.instantTexts_ofCondition, legibleTexts_iff]
    grind
  rw [own, conditions, Workflow.instants, allLegible_append]

end Entry

/-! ## Legible stores -/

namespace Store

/-- The texts of all instants that are ever read again. -/
def instantTexts (s : Store) : List String :=
  s.workflows.flatMap WorkflowRow.instantTexts ++
    s.conditions.flatMap ConditionRow.instantTexts ++
    s.configs.flatMap ConfigRow.instantTexts ++
    s.assets.flatMap AssetRow.instantTexts ++
    s.workOrders.flatMap WorkOrderRow.instantTexts ++
    s.requests.flatMap TicketRow.instantTexts

/-- All instants that are ever read again can be read. -/
def Legible (s : Store) : Prop :=
  ∀ text ∈ s.instantTexts, LegibleText text

/-- No company has more workflows than one query takes values for. -/
def WithinLimit (s : Store) : Prop :=
  ∀ company : Uuid,
    (s.workflows.filter fun row => row.companyId == company.text).length ≤ valueLimit

variable {allowed : Instant → Prop} {s : Store} {entries : List Entry}

/-- The limit in terms of the workflows themselves. -/
theorem Holds.withinLimit_iff (holds : s.Holds entries) :
    s.WithinLimit ↔ ∀ company : Uuid,
      (entries.filter fun e => e.workflow.companyId = company).length ≤ valueLimit := by
  have asMany (company : Uuid) :
      (s.workflows.filter fun row => row.companyId == company.text).length =
        (entries.filter fun e => e.workflow.companyId = company).length := by
    have named : (fun row : WorkflowRow => row.companyId == company.text) ∘ Entry.row =
        fun e => decide (e.workflow.companyId = company) := by
      funext e
      simp
    rw [holds.workflows, List.filter_map, named, List.length_map]
  exact forall_congr' fun company => by rw [asMany company]

/-- Legibility, table by table. -/
theorem Holds.legible_iff (holds : s.Holds entries) :
    s.Legible ↔
      (∀ e ∈ entries, AllLegible e.workflow.instants) ∧
        (∀ row ∈ s.configs, ∀ text ∈ row.instantTexts, LegibleText text) ∧
        (∀ row ∈ s.assets, ∀ text ∈ row.instantTexts, LegibleText text) ∧
        (∀ row ∈ s.workOrders, ∀ text ∈ row.instantTexts, LegibleText text) ∧
        (∀ row ∈ s.requests, ∀ text ∈ row.instantTexts, LegibleText text) := by
  have workflows : (∀ e ∈ entries, AllLegible e.workflow.instants) ↔
      (∀ row ∈ s.workflows, ∀ text ∈ row.instantTexts, LegibleText text) ∧
        (∀ row ∈ s.conditions, ∀ text ∈ row.instantTexts, LegibleText text) := by
    simp only [← Entry.instantTexts_iff, holds.workflows, holds.conditions, List.forall_mem_map,
      List.mem_flatMap]
    grind
  rw [workflows]
  simp only [Legible, instantTexts, List.mem_append, List.mem_flatMap]
  grind

/-- A row that was written from a value can be read exactly when its texts of instants are
legible. -/
theorem Written.readable_iff {ρ α β : Type} {write : α → ρ} {passes : α → Prop} {rows : List ρ}
    (written : Written write passes rows) {read : ρ → Except StoreError β}
    {texts : ρ → List String} {instants : α → List Instant} {kept : α → β}
    (reads : ∀ {value found}, read (write value) = .ok found ↔
      AllLegible (instants value) ∧ kept value = found)
    (sameTexts : ∀ value, texts (write value) = (instants value).map Instant.storedText) {row : ρ}
    (member : row ∈ rows) :
    (∃ found, read row = .ok found) ↔ ∀ text ∈ texts row, LegibleText text := by
  obtain ⟨value, -, rfl⟩ := written row member
  rw [sameTexts, legibleTexts_iff]
  constructor
  · rintro ⟨found, readBack⟩
    exact (reads.mp readBack).1
  · intro legible
    exact ⟨kept value, reads.mpr ⟨legible, rfl⟩⟩

theorem Sound.config_readable_iff (sound : Sound allowed s) {row : ConfigRow}
    (member : row ∈ s.configs) :
    (∃ config, row.config = .ok config) ↔ ∀ text ∈ row.instantTexts, LegibleText text :=
  sound.configs.readable_iff ConfigRow.config_ofConfig_eq_ok_iff
    ConfigRow.instantTexts_ofConfig member

theorem Sound.asset_readable_iff (sound : Sound allowed s) {row : AssetRow}
    (member : row ∈ s.assets) :
    (∃ asset, row.asset = .ok asset) ↔ ∀ text ∈ row.instantTexts, LegibleText text :=
  sound.assets.readable_iff AssetRow.asset_ofAsset_eq_ok_iff AssetRow.instantTexts_ofAsset member

theorem Sound.order_readable_iff (sound : Sound allowed s) {row : WorkOrderRow}
    (member : row ∈ s.workOrders) :
    (∃ order, row.order = .ok order) ↔ ∀ text ∈ row.instantTexts, LegibleText text :=
  sound.workOrders.readable_iff WorkOrderRow.order_ofOrder_eq_ok_iff
    WorkOrderRow.instantTexts_ofOrder member

theorem Sound.request_readable_iff (sound : Sound allowed s) {row : TicketRow}
    (member : row ∈ s.requests) :
    (∃ request, readRequest row = .ok request) ↔
      ∀ text ∈ row.instantTexts, LegibleText text := by
  have reads : ∀ {ticket : Ticket} {found : Request},
      readRequest (.ofTicket ticket) = .ok found ↔
        AllLegible ticket.instants ∧ (⟨ticket⟩ : Request) = found := by
    intro ticket found
    simp only [readRequest, bind_eq_ok_iff, pure_eq_ok_iff, TicketRow.ticket_ofTicket_eq_ok_iff]
    grind
  exact sound.requests.readable_iff reads TicketRow.instantTexts_ofTicket member

end Store

end Caretaker
