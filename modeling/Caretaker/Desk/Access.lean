import Caretaker.Desk.Basic

/-!
# Access to the store

Each access to the store as a job at the desk, through its channel.
-/

namespace Caretaker.Desk

open Job

/-- Store a new workflow. -/
def createWorkflow (w : Workflow) : Job StoreError Workflow :=
  through .createWorkflow do
    let fresh ← freshIds (w.conditions.length + 1)
    write fun s => s.addWorkflow fresh w
    return w

/-- The workflow with an identifier. -/
def findWorkflow (id : Uuid) : Job StoreError (Option Workflow) :=
  through .findWorkflow (read fun s => s.findWorkflow id)

/-- The workflows of a company. -/
def listWorkflows (company : Uuid) : Job StoreError (List Workflow) :=
  through .listWorkflows (read fun s => s.workflowsOf company)

/-- The workflows of a company for a trigger. -/
def matchWorkflows (company : Uuid) (trigger : Trigger) : Job StoreError (List Workflow) :=
  through .matchWorkflows (read fun s => s.workflowsFor company trigger)

/-- Switch workflows on or off. -/
def setWorkflowsEnabled (ids : List Uuid) (enabled : Bool) : Job StoreError Unit :=
  through .setWorkflowsEnabled do
    let time ← now
    write fun s => s.setEnabled ids enabled time

/-- Remove a workflow, and say whether there was one. -/
def deleteWorkflow (id : Uuid) : Job StoreError Bool :=
  through .deleteWorkflow (change fun s => s.removeWorkflow id)

/-- Save a work order. -/
def saveWorkOrder (order : WorkOrder) : Job StoreError Unit :=
  through .saveWorkOrder (write fun s => s.saveWorkOrder order)

/-- Save a request. -/
def saveRequest (request : Request) : Job StoreError Unit :=
  through .saveRequest (write fun s => s.saveRequest request)

/-- Save a purchase order. -/
def savePurchaseOrder (order : PurchaseOrder) : Job StoreError Unit :=
  through .savePurchaseOrder (write fun s => s.savePurchaseOrder order)

/-- Save an asset. -/
def saveAsset (asset : Asset) : Job StoreError Unit :=
  through .saveAsset (write fun s => s.saveAsset asset)

/-- The asset with an identifier. -/
def findAsset (id : Uuid) : Job StoreError (Option Asset) :=
  through .findAsset (read fun s => s.findAsset id)

/-- The work order with an identifier. -/
def findWorkOrder (id : Uuid) : Job StoreError (Option WorkOrder) :=
  through .findWorkOrder (read fun s => s.findWorkOrder id)

/-- The work orders of a company. -/
def listWorkOrders (company : Uuid) : Job StoreError (List WorkOrder) :=
  through .listWorkOrders (read fun s => s.workOrdersOf company)

/-- The requests of a company. -/
def listRequests (company : Uuid) : Job StoreError (List Request) :=
  through .listRequests (read fun s => s.requestsOf company)

/-- The next number for a work order of a company.  The counter moves on even when it
holds no number. -/
def nextOrderNumber (company : Uuid) : Job StoreError String :=
  through .nextOrderNumber do
    let next ← change fun s => s.advanceCounter company
    read fun _ => Store.readCounter next

/-- Store a new configuration. -/
def createConfig (config : WebhookConfig) : Job StoreError WebhookConfig :=
  through .createConfig do
    write fun s => s.addConfig config
    return config

/-- The configuration of a company. -/
def findConfigOf (company : Uuid) : Job StoreError (Option WebhookConfig) :=
  through .findConfigOfCompany (read fun s => s.findConfigOf company)

/-- The configuration with a key. -/
def findConfigByKey (apiKey : String) : Job StoreError (Option WebhookConfig) :=
  through .findConfigByKey (read fun s => s.findConfigByKey apiKey)

/-- Store the new key, flag and time of change of a configuration. -/
def updateConfig (config : WebhookConfig) : Job StoreError WebhookConfig :=
  through .updateConfig do
    write fun s => s.updateConfig config
    return config

/-- Remove the configuration of a company, and say whether there was one. -/
def deleteConfigOf (company : Uuid) : Job StoreError Bool :=
  through .deleteConfig (change fun s => s.removeConfigOf company)

/-- Store a new company. -/
def createCompany (company : Company) : Job StoreError Company :=
  through .createCompany do
    write fun s => s.addCompany company
    return company

/-- The company with an identifier. -/
def findCompany (id : Uuid) : Job StoreError (Option Company) :=
  through .findCompany (read fun s => s.findCompany id)

/-- Store a new user. -/
def createUser (user : User) : Job StoreError User :=
  through .createUser do
    write fun s => s.addUser user
    return user

/-- The administrators of a company. -/
def findAdmins (company : Uuid) : Job StoreError (List User) :=
  through .findAdmins (read fun s => s.findAdmins company)

end Caretaker.Desk
