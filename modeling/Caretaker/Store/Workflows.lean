import Caretaker.Store.Basic

/-!
# Workflows in the store

A workflow is written to three tables at once: its action, its conditions with
their positions, and its own row.  Reading joins the rows again.  The conditions of
all workflows that were found are read together, ordered by workflow and position,
and only when a workflow was found at all.  The query for them is given the identifier
of each of these workflows, so that more workflows than one query takes values for are
not read at all.
-/

namespace Caretaker.Store

open Calendar

/-- The rows of the conditions of a workflow.  `fresh` gives their identifiers. -/
def conditionRows (fresh : Nat → Uuid) (w : Workflow) : List ConditionRow :=
  w.conditions.mapIdx fun position c =>
    .ofCondition (fresh (position + 1)) w.id position c

/-- An identifier is among those taken before it. -/
def repeatsId (taken : List String) : List String → Bool
  | [] => false
  | id :: rest => taken.contains id || repeatsId (id :: taken) rest

/-- Add a workflow.  The identifiers of its action and condition rows come from
`fresh`. -/
def addWorkflow (s : Store) (fresh : Nat → Uuid) (w : Workflow) : Except StoreError Store := do
  s.require .workflowActions
  if s.actions.any fun row => row.id == (fresh 0).text then
    throw (.query (.repeatedKey .workflowActions))
  if !w.conditions.isEmpty then s.require .workflowConditions
  if repeatsId (s.conditions.map ConditionRow.id) ((conditionRows fresh w).map ConditionRow.id) then
    throw (.query (.repeatedKey .workflowConditions))
  s.require .workflows
  if s.workflows.any fun row => row.id == w.id.text then
    throw (.conflict (.workflow w.id.text))
  return { s with
    actions := s.actions ++ [.ofAction (fresh 0) w.action]
    conditions := s.conditions ++ conditionRows fresh w
    workflows := s.workflows ++ [.ofWorkflow (fresh 0) w] }

/-- A workflow row with the row of its action. -/
abbrev JoinedRow := WorkflowRow × ActionRow

/-- Every workflow row with its action. -/
def joined (s : Store) : List JoinedRow :=
  s.workflows.filterMap fun row =>
    (s.actions.find? fun action => action.id == row.actionId).map fun action => (row, action)

/-- Cells in the order of the database: numbers before texts. -/
def cellLE : Cell → Cell → Bool
  | .null, _ => true
  | _, .null => false
  | .int a, .int b => decide (a ≤ b)
  | .int a, .real b => Float.ofInt a ≤ b
  | .real a, .int b => a ≤ Float.ofInt b
  | .real a, .real b => a ≤ b
  | .text a, .text b => decide (a ≤ b)
  | .text _, _ => false
  | _, .text _ => true

/-- Condition rows by workflow and then by position. -/
def conditionLE (a b : ConditionRow) : Bool :=
  decide (a.workflowId < b.workflowId) ||
    (a.workflowId == b.workflowId && cellLE a.position b.position)

/-- A condition with the identifier of its workflow. -/
def readCondition (row : ConditionRow) : Except StoreError (String × Condition) := do
  let condition ← row.condition
  return (row.workflowId, condition)

/-- The conditions of the given workflows, each with the identifier of its
workflow.  The database counts the values of a query before it looks for the table. -/
def conditionsOf (s : Store) (ids : List String) :
    Except StoreError (List (String × Condition)) := do
  takeValues ids.length
  s.require .workflowConditions
  let rows := s.conditions.filter fun row => ids.contains row.workflowId
  readAll readCondition (rows.mergeSort conditionLE)

/-- The workflows, each with its share of the conditions.  Rows with different texts
can name the same identifier; then the first workflow takes all that belong to it. -/
def attach (conditions : List (String × Condition)) : List Workflow → List Workflow
  | [] => []
  | w :: rest =>
      let (own, others) := conditions.partition fun entry => entry.1 == w.id.text
      { w with conditions := own.map Prod.snd } :: attach others rest

/-- The workflows in joined rows, with their conditions. -/
def readWorkflows (s : Store) (rows : List JoinedRow) : Except StoreError (List Workflow) := do
  let workflows ← readAll (fun row : JoinedRow => row.1.workflow row.2) rows
  if workflows.isEmpty then return []
  let conditions ← s.conditionsOf (workflows.map fun w => w.id.text)
  return attach conditions workflows

/-- Joined rows, oldest first. -/
def sortJoined (rows : List JoinedRow) : List JoinedRow :=
  oldestFirst (fun row => (row.1.createdAt, row.1.id)) rows

/-- The workflow with an identifier. -/
def findWorkflow (s : Store) (id : Uuid) : Except StoreError (Option Workflow) := do
  s.require .workflows
  let workflows ← s.readWorkflows (s.joined.filter fun row => row.1.id == id.text)
  return workflows.head?

/-- The workflows of a company, oldest first. -/
def workflowsOf (s : Store) (company : Uuid) : Except StoreError (List Workflow) := do
  s.require .workflows
  s.readWorkflows (sortJoined (s.joined.filter fun row => row.1.companyId == company.text))

/-- The workflows of a company for a trigger, oldest first. -/
def workflowsFor (s : Store) (company : Uuid) (trigger : Trigger) :
    Except StoreError (List Workflow) := do
  s.require .workflows
  s.readWorkflows (sortJoined (s.joined.filter fun row =>
    row.1.companyId == company.text && row.1.mainCondition == Json.word trigger))

/-- Switch workflows on or off.  Identifiers of no workflow are passed over. -/
def setEnabled (s : Store) (ids : List Uuid) (enabled : Bool) (now : Instant) :
    Except StoreError Store := do
  if ids.isEmpty then return s
  s.require .workflows
  let write (row : WorkflowRow) : WorkflowRow :=
    if ids.any fun id => row.id == id.text then
      { row with enabled := .ofBool enabled, updatedAt := now.storedText }
    else row
  return { s with workflows := s.workflows.map write }

/-- Remove a workflow with its action and conditions, and say whether there was
one. -/
def removeWorkflow (s : Store) (id : Uuid) : Except StoreError (Bool × Store) := do
  s.require .workflows
  match s.workflows.find? fun row => row.id == id.text with
  | none => return (false, s)
  | some row =>
      return (true, { s with
        workflows := s.workflows.filter fun other => other.id != id.text
        conditions := s.conditions.filter fun other => other.workflowId != id.text
        actions := s.actions.filter fun other => other.id != row.actionId })

end Caretaker.Store
