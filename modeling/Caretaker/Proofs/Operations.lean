import Caretaker.Admin.Companies
import Caretaker.Admin.WebhookConfigs
import Caretaker.Admin.Workflows
import Caretaker.Proofs.Desk.Access
import Caretaker.Webhook.Gateway

/-!
# Operations

Everything that can be asked of the service, as one type: the administration of
workflows, configurations and companies, the events of the engine, and the calls of
monitoring.  An operation lists the instants that come with it; all other instants
that it may write are readings of the clock.

Every operation keeps a desk orderly, whether it succeeds or not, and so does every
sequence of operations.
-/

namespace Caretaker

open Calendar Job Job.Keeps

variable {allowed : Instant → Prop}

/-! ## Workflows -/

theorem Condition.instants_normalized (c : Condition) : c.normalized.instants = c.instants :=
  rfl

/-- The instants of a draft. -/
def WorkflowDraft.instants (draft : WorkflowDraft) : List Instant :=
  draft.conditions.flatMap Condition.instants

namespace Workflows

theorem create_keeps (company : Uuid) {draft : WorkflowDraft}
    (dated : ∀ t ∈ draft.instants, allowed t) :
    Keeps allowed (create company draft) fun _ => True := by
  unfold create
  dsimp only
  split
  · exact fail _
  · split
    · exact fail _
    · apply Keeps.bind now
      intro createdAt datedNow
      apply Keeps.bind freshId
      intro id _
      refine mapError _ (Desk.createWorkflow_keeps fun t member => ?_)
      simp only [Workflow.instants, Workflow.ownInstants, List.cons_append, List.nil_append,
        List.mem_cons, List.flatMap_map, Condition.instants_normalized] at member
      rcases member with rfl | rfl | member
      · exact datedNow
      · exact datedNow
      · exact dated t member

theorem list_keeps (company : Uuid) : Keeps allowed (list company) fun _ => True :=
  mapError _ (Desk.listWorkflows_keeps company)

theorem get_keeps (company id : Uuid) : Keeps allowed (get company id) fun _ => True :=
  bind (mapError _ (Desk.findWorkflow_keeps id)) fun _ _ => orFail _ fun _ _ => trivial

theorem delete_keeps (company id : Uuid) : Keeps allowed (delete company id) fun _ => True := by
  apply Keeps.bind (get_keeps company id)
  intro _ _
  apply Keeps.bind (mapError _ (Desk.deleteWorkflow_keeps id))
  intro found _
  split
  · exact pure trivial
  · exact fail _

theorem setEnabled_keeps (company id : Uuid) (enabled : Bool) :
    Keeps allowed (setEnabled company id enabled) fun _ => True := by
  apply Keeps.bind (get_keeps company id)
  intro workflow _
  exact bind (mapError _ (Desk.setWorkflowsEnabled_keeps _ enabled)) fun _ _ => pure trivial

theorem disableExtra_keeps (company : Uuid) :
    Keeps allowed (disableExtra company) fun _ => True := by
  apply Keeps.mapError _
  apply Keeps.bind (Desk.listWorkflows_keeps company)
  intro workflows _
  split
  · exact pure trivial
  · refine perhaps (Desk.setWorkflowsEnabled_keeps _ false) ?_
    exact perhaps (Desk.setWorkflowsEnabled_keeps _ true) (pure trivial)

theorem enableAll_keeps (company : Uuid) : Keeps allowed (enableAll company) fun _ => True := by
  apply Keeps.mapError _
  apply Keeps.bind (Desk.listWorkflows_keeps company)
  intro workflows _
  exact perhaps (Desk.setWorkflowsEnabled_keeps _ true) (pure trivial)

end Workflows

/-! ## Configurations and companies -/

namespace WebhookConfigs

theorem create_keeps (company : Uuid) : Keeps allowed (create company) fun _ => True := by
  apply Keeps.bind (mapError _ (Desk.findCompany_keeps company))
  intro known _
  split
  · exact fail _
  · apply Keeps.bind (mapError _ (Desk.findConfigOf_keeps company))
    intro present _
    split
    · exact fail _
    · apply Keeps.bind now
      intro createdAt dated
      apply Keeps.bind freshId
      intro id _
      apply Keeps.bind freshId
      intro key _
      apply Keeps.mapError
      exact Desk.createConfig_keeps (by simpa [WebhookConfig.instants] using dated)

theorem get_keeps (company : Uuid) : Keeps allowed (get company) fun _ => True :=
  bind (mapError _ (Desk.findConfigOf_keeps company)) fun _ _ => orFail _ fun _ _ => trivial

theorem regenerate_keeps (company : Uuid) : Keeps allowed (regenerate company) fun _ => True := by
  apply Keeps.bind (get_keeps company)
  intro config _
  apply Keeps.bind freshId
  intro key _
  exact bind now fun time dated => mapError _ (Desk.updateConfig_keeps dated)

theorem setEnabled_keeps (company : Uuid) (enabled : Bool) :
    Keeps allowed (setEnabled company enabled) fun _ => True := by
  apply Keeps.bind (get_keeps company)
  intro config _
  exact bind now fun time dated => mapError _ (Desk.updateConfig_keeps dated)

theorem delete_keeps (company : Uuid) : Keeps allowed (delete company) fun _ => True := by
  apply Keeps.bind (mapError _ (Desk.deleteConfigOf_keeps company))
  intro found _
  split
  · exact pure trivial
  · exact fail _

theorem resolve_keeps (apiKey : String) : Keeps allowed (resolve apiKey) fun _ => True :=
  mapError _ (Desk.findConfigByKey_keeps apiKey)

end WebhookConfigs

namespace Companies

theorem get_keeps (id : Uuid) : Keeps allowed (get id) fun _ => True :=
  mapError _ (Desk.findCompany_keeps id)

theorem addAdmin_keeps (company : Uuid) (email : String) :
    Keeps allowed (addAdmin company email) fun _ => True := by
  unfold addAdmin
  dsimp only
  split
  · exact fail _
  · apply Keeps.bind (get_keeps company)
    intro known _
    split
    · exact fail _
    · exact bind freshId fun id _ => mapError _ (Desk.createUser_keeps _)

theorem create_keeps (name : String) (adminEmail : Option String) :
    Keeps allowed (create name adminEmail) fun _ => True := by
  unfold create
  dsimp only
  split
  · exact fail _
  · apply Keeps.bind freshId
    intro id _
    apply Keeps.bind now
    intro createdAt _
    apply Keeps.bind (mapError _ (Desk.createCompany_keeps _))
    intro company _
    split
    · exact pure trivial
    · exact bind (addAdmin_keeps _ _) fun _ _ => pure trivial

end Companies

/-! ## Events -/

namespace Dispatch

/-- An assignment leaves the instants of a ticket as they are. -/
theorem instants_assign (t : Ticket) (field : Assignment) (action : Action) :
    (t.assign field action).instants = t.instants := by
  cases field <;> rfl

theorem saved_keeps {σ : Type} (subject : σ) {save : Job StoreError Unit}
    (keeps : Keeps allowed save fun _ => True) :
    Keeps allowed (saved subject save) fun _ => True := by
  apply Keeps.bind (attempt keeps)
  intro result _
  split <;> exact pure trivial

theorem workOrder_keeps (w : Workflow) {order : WorkOrder}
    (dated : ∀ t ∈ order.toTicket.instants, allowed t) :
    Keeps allowed (workOrder w order) fun _ => True := by
  unfold workOrder
  split
  · exact pure trivial
  · split
    · exact pure trivial
    · refine saved_keeps _ (Desk.saveWorkOrder_keeps fun t member => dated t ?_)
      rwa [instants_assign] at member

theorem request_keeps (w : Workflow) {subject : Request}
    (dated : ∀ t ∈ subject.toTicket.instants, allowed t) :
    Keeps allowed (request w subject) fun _ => True := by
  unfold request
  split
  · exact pure trivial
  · split
    · exact pure trivial
    · refine saved_keeps _ (Desk.saveRequest_keeps fun t member => dated t ?_)
      rwa [instants_assign] at member

theorem purchaseOrder_keeps (w : Workflow) (order : PurchaseOrder) :
    Keeps allowed (purchaseOrder w order) fun _ => True := by
  unfold purchaseOrder
  split
  · exact pure trivial
  · split
    · exact pure trivial
    · exact saved_keeps _ (Desk.savePurchaseOrder_keeps _)

theorem part_keeps (w : Workflow) (subject : Part) :
    Keeps allowed (part w subject) fun _ => True := by
  unfold part
  split <;> exact pure trivial

theorem task_keeps (w : Workflow) (subject : Task) :
    Keeps allowed (task w subject) fun _ => True := by
  unfold task
  split
  · exact pure trivial
  · split
    · apply Keeps.bind (Desk.findAsset_keeps _)
      intro found dated
      split
      · exact pure trivial
      · rename_i asset
        refine bind (Desk.saveAsset_keeps ?_) fun _ _ => pure trivial
        exact dated asset rfl
    · exact pure trivial

theorem openTicket_keeps (w : Workflow) (subject : Alert) :
    Keeps allowed (openTicket w subject) fun ticket => ∀ t ∈ ticket.instants, allowed t := by
  refine bind freshId fun id _ => bind now fun createdAt dated => pure ?_
  simpa [ticketFor, Ticket.fresh, Ticket.instants] using dated

theorem alert_keeps (w : Workflow) (subject : Alert) :
    Keeps allowed (alert w subject) fun _ => True := by
  unfold alert
  split
  · exact pure trivial
  · split
    · apply Keeps.bind (openTicket_keeps w subject)
      intro ticket dated
      apply Keeps.bind (Desk.nextOrderNumber_keeps _)
      intro number _
      exact bind (Desk.saveWorkOrder_keeps dated) fun _ _ => pure trivial
    · apply Keeps.bind (openTicket_keeps w subject)
      intro ticket dated
      exact bind (Desk.saveRequest_keeps dated) fun _ _ => pure trivial
    · exact pure trivial
    · exact pure trivial

end Dispatch

namespace Engine

theorem select_keeps (company : Uuid) (trigger : Trigger) (subject : Subject) :
    Keeps allowed (select company trigger subject) fun _ => True :=
  bind (Desk.matchWorkflows_keeps company trigger) fun _ _ => pure trivial

theorem onSubject_keeps {σ : Type} (company : Uuid) (subject : σ) (view : Subject)
    {dispatch : Workflow → Job StoreError (Except StoreError Effect × σ)}
    (keeps : ∀ w, Keeps allowed (dispatch w) fun _ => True) :
    Keeps allowed (onSubject company subject view dispatch) fun _ => True := by
  apply Keeps.bind (attempt (select_keeps company view.trigger view))
  intro selected _
  split
  · exact pure trivial
  · exact pure trivial
  · exact bind (keeps _) fun _ _ => pure trivial

theorem unchanged_keeps {σ : Type} (subject : σ) {dispatch : Job StoreError Effect}
    (keeps : Keeps allowed dispatch fun _ => True) :
    Keeps allowed (unchanged subject dispatch) fun _ => True :=
  bind (attempt keeps) fun _ _ => pure trivial

end Engine

namespace Gateway

theorem sendAll_keeps (mails : List Mail) : Keeps allowed (sendAll mails) fun _ => True := by
  intro desk orderly
  exact ⟨⟨orderly.reachable, orderly.clock, orderly.working⟩, fun _ _ => trivial⟩

theorem notifyAdmins_keeps (company : Uuid) (alert : Alert) (error : String) :
    Keeps allowed (notifyAdmins company alert error) fun _ => True := by
  apply Keeps.bind (attempt (Desk.findCompany_keeps company))
  intro known _
  -- Whatever name the company goes by, the rest is the same.
  split
  all_goals
    refine bind (pure trivial) fun name (_ : True) => ?_
    apply Keeps.bind (attempt (Desk.findAdmins_keeps company))
    intro admins _
    split
    · exact pure trivial
    · exact sendAll_keeps _

theorem execute_keeps (timeout : Nat) (company : Uuid) (w : Workflow) (alert : Alert) :
    Keeps allowed (execute timeout company w alert) fun _ => True := by
  have giveUp_keeps (failure : String) :
      Keeps allowed (giveUp company alert failure) fun _ => True :=
    bind (notifyAdmins_keeps company alert failure) fun _ _ => fail _
  apply Keeps.bind (supervise (Dispatch.alert_keeps w alert))
  intro outcome _
  split
  · exact pure trivial
  · exact giveUp_keeps _
  · exact giveUp_keeps _

theorem resolve_keeps (apiKey : String) : Keeps allowed (resolve apiKey) fun _ => True := by
  apply Keeps.bind (mapError _ (Desk.findConfigByKey_keeps apiKey))
  intro found _
  refine bind (orFail _ fun _ _ => trivial) fun config (_ : True) => ?_
  split
  · exact pure trivial
  · exact fail _

theorem handle_keeps (timeout : Nat) (apiKey : Option String) (payload : List UInt8) :
    Keeps allowed (handle timeout apiKey payload) fun _ => True := by
  refine bind (orFail _ fun _ _ => trivial) fun key (_ : True) => ?_
  apply Keeps.bind (takeToken _)
  intro admitted _
  split
  · exact fail _
  · apply Keeps.bind (resolve_keeps key)
    intro config _
    have normalize_keeps : Keeps allowed (normalize payload) fun _ => True := by
      unfold normalize
      split
      · exact pure trivial
      · exact fail _
    apply Keeps.bind normalize_keeps
    intro alert _
    apply Keeps.bind (mapError _ (Engine.select_keeps _ _ _))
    intro selected _
    split
    · exact pure trivial
    · exact execute_keeps _ _ _ _

end Gateway

/-! ## All operations -/

/-- Something that the service can be asked to do. -/
inductive Operation where
  | createWorkflow (company : Uuid) (draft : WorkflowDraft)
  | listWorkflows (company : Uuid)
  | getWorkflow (company id : Uuid)
  | deleteWorkflow (company id : Uuid)
  | switchWorkflow (company id : Uuid) (enabled : Bool)
  | restrictPlan (company : Uuid)
  | liftPlan (company : Uuid)
  | createConfig (company : Uuid)
  | getConfig (company : Uuid)
  | regenerateKey (company : Uuid)
  | switchConfig (company : Uuid) (enabled : Bool)
  | deleteConfig (company : Uuid)
  | resolveKey (apiKey : String)
  | createCompany (name : String) (adminEmail : Option String)
  | addAdmin (company : Uuid) (email : String)
  | getCompany (id : Uuid)
  | workOrderChanged (order : WorkOrder)
  | requestChanged (request : Request)
  | purchaseOrderChanged (order : PurchaseOrder)
  | partChanged (part : Part)
  | taskChanged (company : Uuid) (task : Task)
  | alertReceived (timeout : Nat) (apiKey : Option String) (payload : List UInt8)

namespace Operation

/-- The instants that come with an operation and may be stored and read again. -/
def instants : Operation → List Instant
  | .createWorkflow _ draft => draft.instants
  | .workOrderChanged order => order.toTicket.instants
  | .requestChanged request => request.toTicket.instants
  | _ => []

/-- The desk after the operation, however it ended. -/
def after : Operation → Desk → Desk
  | .createWorkflow company draft, desk => ((Workflows.create company draft).run desk).2
  | .listWorkflows company, desk => ((Workflows.list company).run desk).2
  | .getWorkflow company id, desk => ((Workflows.get company id).run desk).2
  | .deleteWorkflow company id, desk => ((Workflows.delete company id).run desk).2
  | .switchWorkflow company id enabled, desk => ((Workflows.setEnabled company id enabled).run desk).2
  | .restrictPlan company, desk => ((Workflows.disableExtra company).run desk).2
  | .liftPlan company, desk => ((Workflows.enableAll company).run desk).2
  | .createConfig company, desk => ((WebhookConfigs.create company).run desk).2
  | .getConfig company, desk => ((WebhookConfigs.get company).run desk).2
  | .regenerateKey company, desk => ((WebhookConfigs.regenerate company).run desk).2
  | .switchConfig company enabled, desk => ((WebhookConfigs.setEnabled company enabled).run desk).2
  | .deleteConfig company, desk => ((WebhookConfigs.delete company).run desk).2
  | .resolveKey apiKey, desk => ((WebhookConfigs.resolve apiKey).run desk).2
  | .createCompany name adminEmail, desk => ((Companies.create name adminEmail).run desk).2
  | .addAdmin company email, desk => ((Companies.addAdmin company email).run desk).2
  | .getCompany id, desk => ((Companies.get id).run desk).2
  | .workOrderChanged order, desk => ((Engine.onWorkOrder order).run desk).2
  | .requestChanged request, desk => ((Engine.onRequest request).run desk).2
  | .purchaseOrderChanged order, desk => ((Engine.onPurchaseOrder order).run desk).2
  | .partChanged part, desk => ((Engine.onPart part).run desk).2
  | .taskChanged company task, desk => ((Engine.onTask company task).run desk).2
  | .alertReceived timeout apiKey payload, desk => ((Gateway.handle timeout apiKey payload).run desk).2

/-- An operation that comes with allowed instants keeps a desk orderly. -/
theorem after_orderly (operation : Operation) (dated : ∀ t ∈ operation.instants, allowed t)
    {desk : Desk} (orderly : desk.Orderly allowed) : (operation.after desk).Orderly allowed := by
  cases operation with
  | createWorkflow company draft => exact (Workflows.create_keeps company dated desk orderly).1
  | listWorkflows company => exact (Workflows.list_keeps company desk orderly).1
  | getWorkflow company id => exact (Workflows.get_keeps company id desk orderly).1
  | deleteWorkflow company id => exact (Workflows.delete_keeps company id desk orderly).1
  | switchWorkflow company id enabled =>
      exact (Workflows.setEnabled_keeps company id enabled desk orderly).1
  | restrictPlan company => exact (Workflows.disableExtra_keeps company desk orderly).1
  | liftPlan company => exact (Workflows.enableAll_keeps company desk orderly).1
  | createConfig company => exact (WebhookConfigs.create_keeps company desk orderly).1
  | getConfig company => exact (WebhookConfigs.get_keeps company desk orderly).1
  | regenerateKey company => exact (WebhookConfigs.regenerate_keeps company desk orderly).1
  | switchConfig company enabled =>
      exact (WebhookConfigs.setEnabled_keeps company enabled desk orderly).1
  | deleteConfig company => exact (WebhookConfigs.delete_keeps company desk orderly).1
  | resolveKey apiKey => exact (WebhookConfigs.resolve_keeps apiKey desk orderly).1
  | createCompany name adminEmail => exact (Companies.create_keeps name adminEmail desk orderly).1
  | addAdmin company email => exact (Companies.addAdmin_keeps company email desk orderly).1
  | getCompany id => exact (Companies.get_keeps id desk orderly).1
  | workOrderChanged order =>
      have dispatches (w : Workflow) := Dispatch.workOrder_keeps w dated
      exact (Engine.onSubject_keeps order.companyId order (.workOrder order) dispatches desk
        orderly).1
  | requestChanged request =>
      have dispatches (w : Workflow) := Dispatch.request_keeps w dated
      exact (Engine.onSubject_keeps request.companyId request (.request request) dispatches desk
        orderly).1
  | purchaseOrderChanged order =>
      have dispatches (w : Workflow) := @Dispatch.purchaseOrder_keeps allowed w order
      exact (Engine.onSubject_keeps order.companyId order (.purchaseOrder order) dispatches desk
        orderly).1
  | partChanged part =>
      have dispatches (w : Workflow) :=
        Engine.unchanged_keeps part (@Dispatch.part_keeps allowed w part)
      exact (Engine.onSubject_keeps part.companyId part (.part part) dispatches desk orderly).1
  | taskChanged company task =>
      have dispatches (w : Workflow) :=
        Engine.unchanged_keeps task (@Dispatch.task_keeps allowed w task)
      exact (Engine.onSubject_keeps company task (.task task) dispatches desk orderly).1
  | alertReceived timeout apiKey payload =>
      exact (Gateway.handle_keeps timeout apiKey payload desk orderly).1

end Operation

/-- The desk after a sequence of operations. -/
def Desk.serve (desk : Desk) (operations : List Operation) : Desk :=
  operations.foldl (fun desk operation => operation.after desk) desk

/-- A sequence of operations that come with allowed instants keeps a desk orderly. -/
theorem Desk.Orderly.serve {desk : Desk} (orderly : desk.Orderly allowed)
    {operations : List Operation}
    (dated : ∀ operation ∈ operations, ∀ t ∈ operation.instants, allowed t) :
    (desk.serve operations).Orderly allowed := by
  induction operations generalizing desk with
  | nil => exact orderly
  | cons operation rest ih =>
      rw [List.forall_mem_cons] at dated
      exact ih (operation.after_orderly dated.1 orderly) dated.2

/-- A desk with an empty store and all channels in order is orderly as soon as its clock
only reads allowed instants. -/
theorem Desk.orderly_of_empty {desk : Desk} (blank : desk.store = .empty)
    (working : desk.outages = []) (clock : ∀ n, allowed (desk.source.now n)) :
    desk.Orderly allowed where
  reachable := blank ▸ .empty
  clock := clock
  working := working

namespace Desk

/-- A desk with nothing in its store, whose clock stands still. -/
def blank (time : Instant) : Desk where
  store := .empty
  limiter := { rule := { capacity := 1, perSecond := 1 }, buckets := [] }
  outbox := []
  source := { id := Uuid.ofNat, now := fun _ => time, nanos := fun _ => 0, drawn := 0 }
  outages := []

theorem isTime_midnight : IsTime 0 0 0 0 := by
  decide

/-- The first instant of a year. -/
def newYear (year : Int) (valid : IsDate year 1 1) : Instant :=
  ⟨⟨year, 1, 1, valid⟩, 0, 0, 0, 0, isTime_midnight⟩

theorem isDate_newYear2026 : IsDate 2026 1 1 := by
  decide

end Desk

end Caretaker
