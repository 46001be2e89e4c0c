import Caretaker.Proofs.Bystanders

/-!
# Work that takes no number

The counters behind the numbers of work orders are moved by taking a number, and by nothing
else.  Every other access to the store, every operation of administrators, and every event
leaves all counters alone, however it ends; and no piece of work removes a table.
-/

namespace Caretaker

open Job

/-! ## Writes to other tables -/

/-- What taking a number depends on: the counters, and which tables are gone. -/
def Store.tally (s : Store) : List CounterRow × List Table :=
  (s.counters, s.dropped)

namespace Store

variable {s s' : Store}

theorem tally_addWorkflow {fresh : Nat → Uuid} {w : Workflow}
    (done : s.addWorkflow fresh w = .ok s') : s'.tally = s.tally := by
  rw [eq_of_addWorkflow done]
  rfl

theorem tally_setEnabled {ids : List Uuid} {enabled : Bool} {time : Calendar.Instant}
    (done : s.setEnabled ids enabled time = .ok s') : s'.tally = s.tally := by
  rw [eq_of_setEnabled done]
  rfl

theorem tally_removeWorkflow {id : Uuid} {found : Bool}
    (done : s.removeWorkflow id = .ok (found, s')) : s'.tally = s.tally := by
  rw [eq_of_removeWorkflow done]
  rfl

theorem tally_saveWorkOrder {order : WorkOrder} (done : s.saveWorkOrder order = .ok s') :
    s'.tally = s.tally := by
  rw [eq_of_saveWorkOrder done]
  rfl

theorem tally_saveRequest {request : Request} (done : s.saveRequest request = .ok s') :
    s'.tally = s.tally := by
  rw [eq_of_saveRequest done]
  rfl

theorem tally_savePurchaseOrder {order : PurchaseOrder} (done : s.savePurchaseOrder order = .ok s') :
    s'.tally = s.tally := by
  rw [eq_of_savePurchaseOrder done]
  rfl

theorem tally_saveAsset {asset : Asset} (done : s.saveAsset asset = .ok s') :
    s'.tally = s.tally := by
  rw [eq_of_saveAsset done]
  rfl

theorem tally_addConfig {config : WebhookConfig} (done : s.addConfig config = .ok s') :
    s'.tally = s.tally := by
  rw [eq_of_addConfig done]
  rfl

theorem tally_updateConfig {config : WebhookConfig} (done : s.updateConfig config = .ok s') :
    s'.tally = s.tally := by
  rw [eq_of_updateConfig done]
  rfl

theorem tally_removeConfigOf {company : Uuid} {found : Bool}
    (done : s.removeConfigOf company = .ok (found, s')) : s'.tally = s.tally := by
  rw [eq_of_removeConfigOf done]
  rfl

theorem tally_addCompany {company : Company} (done : s.addCompany company = .ok s') :
    s'.tally = s.tally := by
  rw [eq_of_addCompany done]
  rfl

theorem tally_addUser {user : User} (done : s.addUser user = .ok s') : s'.tally = s.tally := by
  rw [eq_of_addUser done]
  rfl

end Store

/-! ## Accesses to the store -/

namespace Desk

/-- What taking a number depends on. -/
def tally (desk : Desk) : List CounterRow × List Table :=
  desk.store.tally

theorem createWorkflow_uncounted (w : Workflow) : Preserves tally (createWorkflow w) := by
  apply Preserves.through
  apply Preserves.bind (fun _ => rfl)
  intro fresh
  apply Preserves.bind (Preserves.write fun _ _ done => Store.tally_addWorkflow done)
  exact fun _ => Preserves.pure w

theorem setWorkflowsEnabled_uncounted (ids : List Uuid) (enabled : Bool) :
    Preserves tally (setWorkflowsEnabled ids enabled) := by
  apply Preserves.through
  apply Preserves.bind (fun _ => rfl)
  exact fun time => Preserves.write fun _ _ done => Store.tally_setEnabled done

theorem deleteWorkflow_uncounted (id : Uuid) : Preserves tally (deleteWorkflow id) :=
  Preserves.through (Preserves.change fun _ _ _ done => Store.tally_removeWorkflow done)

theorem saveWorkOrder_uncounted (order : WorkOrder) : Preserves tally (saveWorkOrder order) :=
  Preserves.through (Preserves.write fun _ _ done => Store.tally_saveWorkOrder done)

theorem saveRequest_uncounted (request : Request) : Preserves tally (saveRequest request) :=
  Preserves.through (Preserves.write fun _ _ done => Store.tally_saveRequest done)

theorem savePurchaseOrder_uncounted (order : PurchaseOrder) :
    Preserves tally (savePurchaseOrder order) :=
  Preserves.through (Preserves.write fun _ _ done => Store.tally_savePurchaseOrder done)

theorem saveAsset_uncounted (asset : Asset) : Preserves tally (saveAsset asset) :=
  Preserves.through (Preserves.write fun _ _ done => Store.tally_saveAsset done)

/-- Storing a value and giving it back leaves alone what storing it does. -/
theorem storing_uncounted {α : Type} {channel : Channel} {f : Store → Except StoreError Store}
    (value : α) (kept : ∀ s s', f s = .ok s' → s'.tally = s.tally) :
    Preserves tally (through channel (do write f; return value)) := by
  apply Preserves.through
  apply Preserves.bind (Preserves.write fun desk store done => kept desk.store store done)
  exact fun _ => Preserves.pure value

theorem createConfig_uncounted (config : WebhookConfig) : Preserves tally (createConfig config) :=
  storing_uncounted config fun _ _ => Store.tally_addConfig

theorem updateConfig_uncounted (config : WebhookConfig) : Preserves tally (updateConfig config) :=
  storing_uncounted config fun _ _ => Store.tally_updateConfig

theorem deleteConfigOf_uncounted (company : Uuid) : Preserves tally (deleteConfigOf company) :=
  Preserves.through (Preserves.change fun _ _ _ done => Store.tally_removeConfigOf done)

theorem createCompany_uncounted (company : Company) : Preserves tally (createCompany company) :=
  storing_uncounted company fun _ _ => Store.tally_addCompany

theorem createUser_uncounted (user : User) : Preserves tally (createUser user) :=
  storing_uncounted user fun _ _ => Store.tally_addUser

end Desk

/-! ## Administration -/

namespace Workflows

open Desk

theorem create_uncounted (company : Uuid) (draft : WorkflowDraft) :
    Preserves tally (create company draft) := by
  unfold create
  dsimp only
  split
  · exact Preserves.fail _
  · split
    · exact Preserves.fail _
    · apply Preserves.bind (fun _ => rfl)
      intro createdAt
      apply Preserves.bind (fun _ => rfl)
      exact fun id => Preserves.mapError _ (createWorkflow_uncounted _)

theorem get_looks (company id : Uuid) : (get company id).Looks :=
  Looks.bind (Looks.mapError _ (Looks.read _ _)) fun _ => Looks.orFail _ _

theorem delete_uncounted (company id : Uuid) : Preserves tally (delete company id) := by
  apply Preserves.bind (Preserves.of_looks (get_looks company id))
  intro _
  apply Preserves.bind (Preserves.mapError _ (deleteWorkflow_uncounted id))
  intro found
  split
  · exact Preserves.pure _
  · exact Preserves.fail _

theorem setEnabled_uncounted (company id : Uuid) (enabled : Bool) :
    Preserves tally (setEnabled company id enabled) := by
  apply Preserves.bind (Preserves.of_looks (get_looks company id))
  intro workflow
  apply Preserves.bind (Preserves.mapError _ (setWorkflowsEnabled_uncounted _ enabled))
  exact fun _ => Preserves.pure _

theorem disableExtra_uncounted (company : Uuid) : Preserves tally (disableExtra company) := by
  apply Preserves.mapError
  apply Preserves.bind (Preserves.of_looks (Looks.read _ _))
  intro workflows
  split
  · exact Preserves.pure _
  · apply Preserves.perhaps (setWorkflowsEnabled_uncounted _ false)
    exact Preserves.perhaps (setWorkflowsEnabled_uncounted _ true) (Preserves.pure _)

theorem enableAll_uncounted (company : Uuid) : Preserves tally (enableAll company) := by
  apply Preserves.mapError
  apply Preserves.bind (Preserves.of_looks (Looks.read _ _))
  intro workflows
  exact Preserves.perhaps (setWorkflowsEnabled_uncounted _ true) (Preserves.pure _)

end Workflows

namespace WebhookConfigs

open Desk

theorem create_uncounted (company : Uuid) : Preserves tally (create company) := by
  apply Preserves.bind (Preserves.of_looks (Looks.mapError _ (Looks.read _ _)))
  intro known
  split
  · exact Preserves.fail _
  · apply Preserves.bind (Preserves.of_looks (Looks.mapError _ (Looks.read _ _)))
    intro present
    split
    · exact Preserves.fail _
    · apply Preserves.bind (fun _ => rfl)
      intro createdAt
      apply Preserves.bind (fun _ => rfl)
      intro id
      apply Preserves.bind (fun _ => rfl)
      exact fun key => Preserves.mapError _ (createConfig_uncounted _)

theorem get_looks (company : Uuid) : (get company).Looks :=
  Looks.bind (Looks.mapError _ (Looks.read _ _)) fun _ => Looks.orFail _ _

theorem regenerate_uncounted (company : Uuid) : Preserves tally (regenerate company) := by
  apply Preserves.bind (Preserves.of_looks (get_looks company))
  intro config
  apply Preserves.bind (fun _ => rfl)
  intro key
  apply Preserves.bind (fun _ => rfl)
  exact fun time => Preserves.mapError _ (updateConfig_uncounted _)

theorem setEnabled_uncounted (company : Uuid) (enabled : Bool) :
    Preserves tally (setEnabled company enabled) := by
  apply Preserves.bind (Preserves.of_looks (get_looks company))
  intro config
  apply Preserves.bind (fun _ => rfl)
  exact fun time => Preserves.mapError _ (updateConfig_uncounted _)

theorem delete_uncounted (company : Uuid) : Preserves tally (delete company) := by
  apply Preserves.bind (Preserves.mapError _ (deleteConfigOf_uncounted company))
  intro found
  split
  · exact Preserves.pure _
  · exact Preserves.fail _

end WebhookConfigs

namespace Companies

open Desk

theorem addAdmin_uncounted (company : Uuid) (email : String) :
    Preserves tally (addAdmin company email) := by
  unfold addAdmin
  dsimp only
  split
  · exact Preserves.fail _
  · apply Preserves.bind (Preserves.of_looks (Looks.mapError _ (Looks.read _ _)))
    intro known
    split
    · exact Preserves.fail _
    · apply Preserves.bind (fun _ => rfl)
      exact fun id => Preserves.mapError _ (createUser_uncounted _)

theorem create_uncounted (name : String) (adminEmail : Option String) :
    Preserves tally (create name adminEmail) := by
  unfold create
  dsimp only
  split
  · exact Preserves.fail _
  · apply Preserves.bind (fun _ => rfl)
    intro id
    apply Preserves.bind (fun _ => rfl)
    intro createdAt
    apply Preserves.bind (Preserves.mapError _ (createCompany_uncounted _))
    intro company
    split
    · exact Preserves.pure _
    · exact Preserves.bind (addAdmin_uncounted _ _) fun _ => Preserves.pure _

end Companies

/-! ## Dispatches and events -/

namespace Dispatch

open Desk

theorem workOrder_uncounted (w : Workflow) (order : WorkOrder) :
    Preserves tally (workOrder w order) := by
  unfold workOrder
  split
  · exact Preserves.pure _
  · split
    · exact Preserves.pure _
    · exact saved_preserves _ (saveWorkOrder_uncounted _)

theorem request_uncounted (w : Workflow) (subject : Request) :
    Preserves tally (request w subject) := by
  unfold request
  split
  · exact Preserves.pure _
  · split
    · exact Preserves.pure _
    · exact saved_preserves _ (saveRequest_uncounted _)

theorem purchaseOrder_uncounted (w : Workflow) (order : PurchaseOrder) :
    Preserves tally (purchaseOrder w order) := by
  unfold purchaseOrder
  split
  · exact Preserves.pure _
  · split
    · exact Preserves.pure _
    · exact saved_preserves _ (savePurchaseOrder_uncounted _)

theorem task_uncounted (w : Workflow) (subject : Task) : Preserves tally (task w subject) := by
  unfold task
  split
  · exact Preserves.pure _
  · split
    · apply Preserves.bind (Preserves.of_looks (Looks.read _ _))
      intro found
      split
      · exact Preserves.pure _
      · exact Preserves.bind (saveAsset_uncounted _) fun _ => Preserves.pure _
    · exact Preserves.pure _

end Dispatch

namespace Operation

open Desk Engine

/-- The operation is a call of monitoring. -/
def isAlert : Operation → Bool
  | .alertReceived .. => true
  | _ => false

/-- Operations other than calls of monitoring leave all counters alone. -/
theorem after_uncounted {operation : Operation} (noAlert : operation.isAlert = false)
    (desk : Desk) : tally (operation.after desk) = tally desk := by
  cases operation with
  | createWorkflow company draft => exact Workflows.create_uncounted company draft desk
  | listWorkflows company =>
      exact congrArg tally (Looks.mapError _ (Looks.read _ _) desk)
  | getWorkflow company id => exact congrArg tally (Workflows.get_looks company id desk)
  | deleteWorkflow company id => exact Workflows.delete_uncounted company id desk
  | switchWorkflow company id enabled =>
      exact Workflows.setEnabled_uncounted company id enabled desk
  | restrictPlan company => exact Workflows.disableExtra_uncounted company desk
  | liftPlan company => exact Workflows.enableAll_uncounted company desk
  | createConfig company => exact WebhookConfigs.create_uncounted company desk
  | getConfig company => exact congrArg tally (WebhookConfigs.get_looks company desk)
  | regenerateKey company => exact WebhookConfigs.regenerate_uncounted company desk
  | switchConfig company enabled => exact WebhookConfigs.setEnabled_uncounted company enabled desk
  | deleteConfig company => exact WebhookConfigs.delete_uncounted company desk
  | resolveKey apiKey => exact congrArg tally (Looks.mapError _ (Looks.read _ _) desk)
  | createCompany name adminEmail => exact Companies.create_uncounted name adminEmail desk
  | addAdmin company email => exact Companies.addAdmin_uncounted company email desk
  | getCompany id => exact congrArg tally (Looks.mapError _ (Looks.read _ _) desk)
  | workOrderChanged order =>
      have dispatches (w : Workflow) := Dispatch.workOrder_uncounted w order
      exact onSubject_preserves order.companyId order (.workOrder order) dispatches desk
  | requestChanged request =>
      have dispatches (w : Workflow) := Dispatch.request_uncounted w request
      exact onSubject_preserves request.companyId request (.request request) dispatches desk
  | purchaseOrderChanged order =>
      have dispatches (w : Workflow) := Dispatch.purchaseOrder_uncounted w order
      exact onSubject_preserves order.companyId order (.purchaseOrder order) dispatches desk
  | partChanged part =>
      have dispatches (w : Workflow) : Preserves tally _ :=
        unchanged_preserves part (Dispatch.part_preserves w part)
      exact onSubject_preserves part.companyId part (.part part) dispatches desk
  | taskChanged company task =>
      have dispatches (w : Workflow) := unchanged_preserves task (Dispatch.task_uncounted w task)
      exact onSubject_preserves company task (.task task) dispatches desk
  | alertReceived timeout apiKey payload => cases noAlert

end Operation

end Caretaker
