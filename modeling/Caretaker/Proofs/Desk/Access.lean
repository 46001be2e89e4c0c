import Caretaker.Proofs.Desk.Orderly

/-!
# Accesses that keep a desk orderly

Each access to the store is one step of it or none.  An access that writes a value
needs the instants of that value to be allowed.
-/

namespace Caretaker.Desk

open Calendar Job Job.Keeps

variable {allowed : Instant → Prop}

/-- Whoever finds an asset finds allowed instants in it. -/
theorem dated_of_findAsset {s : Store} (sound : Store.Sound allowed s) {id : Uuid}
    {found : Option Asset} (answer : s.findAsset id = .ok found) :
    ∀ asset, found = some asset → ∀ t ∈ asset.instants, allowed t := by
  rintro asset rfl
  simp only [Store.findAsset, sound.intact.require, ok_bind] at answer
  cases located : s.assets.find? fun row => row.id == id.text with
  | none => simp [located, Store.readOne] at answer
  | some row =>
      obtain ⟨value, dated, rfl⟩ := sound.assets row (List.mem_of_find?_eq_some located)
      simp only [located, Store.readOne, bind_eq_ok_iff, pure_eq_ok_iff, Option.some.injEq,
        AssetRow.asset_ofAsset_eq_ok_iff] at answer
      obtain ⟨_, ⟨-, rfl⟩, rfl⟩ := answer
      exact dated

/-! ## Reading -/

theorem findWorkflow_keeps (id : Uuid) : Keeps allowed (findWorkflow id) fun _ => True :=
  through (read fun _ _ _ _ => trivial)

theorem listWorkflows_keeps (company : Uuid) :
    Keeps allowed (listWorkflows company) fun _ => True :=
  through (read fun _ _ _ _ => trivial)

theorem matchWorkflows_keeps (company : Uuid) (trigger : Trigger) :
    Keeps allowed (matchWorkflows company trigger) fun _ => True :=
  through (read fun _ _ _ _ => trivial)

theorem findAsset_keeps (id : Uuid) :
    Keeps allowed (findAsset id) fun found =>
      ∀ asset, found = some asset → ∀ t ∈ asset.instants, allowed t :=
  through (read fun _ _ sound answer => dated_of_findAsset sound answer)

theorem findConfigOf_keeps (company : Uuid) :
    Keeps allowed (findConfigOf company) fun _ => True :=
  through (read fun _ _ _ _ => trivial)

theorem findConfigByKey_keeps (apiKey : String) :
    Keeps allowed (findConfigByKey apiKey) fun _ => True :=
  through (read fun _ _ _ _ => trivial)

theorem findCompany_keeps (id : Uuid) : Keeps allowed (findCompany id) fun _ => True :=
  through (read fun _ _ _ _ => trivial)

theorem findAdmins_keeps (company : Uuid) : Keeps allowed (findAdmins company) fun _ => True :=
  through (read fun _ _ _ _ => trivial)

/-! ## Writing -/

/-- Writing a value by a step of the store, and giving it back. -/
theorem stored_keeps {α : Type} {f : Store → Except StoreError Store} (value : α)
    (steps : ∀ s s', f s = .ok s' → Store.Step allowed s s') :
    Keeps allowed (do Job.write f; return value : Job StoreError α) fun _ => True := by
  apply Keeps.bind (write steps)
  intro _ _
  exact pure trivial

theorem createWorkflow_keeps {w : Workflow} (dated : ∀ t ∈ w.instants, allowed t) :
    Keeps allowed (createWorkflow w) fun _ => True := by
  apply Keeps.through
  apply Keeps.bind (freshIds _)
  intro fresh _
  exact stored_keeps w fun _ _ done => .addWorkflow done dated

theorem setWorkflowsEnabled_keeps (ids : List Uuid) (enabled : Bool) :
    Keeps allowed (setWorkflowsEnabled ids enabled) fun _ => True := by
  apply Keeps.through
  apply Keeps.bind now
  intro time dated
  exact write fun s s' done => .setEnabled done dated

theorem deleteWorkflow_keeps (id : Uuid) : Keeps allowed (deleteWorkflow id) fun _ => True :=
  through (change fun _ _ _ done => .removeWorkflow done)

theorem saveWorkOrder_keeps {order : WorkOrder}
    (dated : ∀ t ∈ order.toTicket.instants, allowed t) :
    Keeps allowed (saveWorkOrder order) fun _ => True :=
  through (write fun _ _ done => .saveWorkOrder done dated)

theorem saveRequest_keeps {request : Request}
    (dated : ∀ t ∈ request.toTicket.instants, allowed t) :
    Keeps allowed (saveRequest request) fun _ => True :=
  through (write fun _ _ done => .saveRequest done dated)

theorem savePurchaseOrder_keeps (order : PurchaseOrder) :
    Keeps allowed (savePurchaseOrder order) fun _ => True :=
  through (write fun _ _ done => .savePurchaseOrder done)

theorem saveAsset_keeps {asset : Asset} (dated : ∀ t ∈ asset.instants, allowed t) :
    Keeps allowed (saveAsset asset) fun _ => True :=
  through (write fun _ _ done => .saveAsset done dated)

theorem nextOrderNumber_keeps (company : Uuid) :
    Keeps allowed (nextOrderNumber company) fun _ => True := by
  apply Keeps.through
  apply Keeps.bind (change fun _ _ _ done => .advanceCounter done)
  intro next _
  exact read fun _ _ _ _ => trivial

theorem createConfig_keeps {config : WebhookConfig} (dated : ∀ t ∈ config.instants, allowed t) :
    Keeps allowed (createConfig config) fun _ => True :=
  through (stored_keeps config fun _ _ done => .addConfig done dated)

theorem updateConfig_keeps {config : WebhookConfig} (dated : allowed config.updatedAt) :
    Keeps allowed (updateConfig config) fun _ => True :=
  through (stored_keeps config fun _ _ done => .updateConfig done dated)

theorem deleteConfigOf_keeps (company : Uuid) :
    Keeps allowed (deleteConfigOf company) fun _ => True :=
  through (change fun _ _ _ done => .removeConfigOf done)

theorem createCompany_keeps (company : Company) :
    Keeps allowed (createCompany company) fun _ => True :=
  through (stored_keeps company fun _ _ done => .addCompany done)

theorem createUser_keeps (user : User) : Keeps allowed (createUser user) fun _ => True :=
  through (stored_keeps user fun _ _ done => .addUser done)

end Caretaker.Desk
