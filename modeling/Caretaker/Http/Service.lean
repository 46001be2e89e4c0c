import Caretaker.Http.Envelope
import Caretaker.Http.Resource
import Caretaker.Webhook.Gateway

/-!
# The service over HTTP

A request passes its checks in a fixed order: the path names a resource, the method
is one of the resource's, the values in the path are what they should be, and then
the body is read.  Asking for the options of any path is always granted.
-/

namespace Caretaker.Http

open Json Job

variable {ε : Type}

/-- The version of the service. -/
def version : String := "0.1.0"

/-- What a client sends to create a company. -/
structure CompanyDraft where
  name : String
  adminEmail : Option String

/-- What a client sends to add an administrator. -/
structure AdminDraft where
  email : String

instance : Wire CompanyDraft where
  encode draft := record [put "name" draft.name, putSome "adminEmail" draft.adminEmail]
  read := Record.read <| CompanyDraft.mk <$> required "name" <*> omittable "adminEmail"

instance : Wire AdminDraft where
  encode draft := record [put "email" draft.email]
  read := Record.read <| AdminDraft.mk <$> required "email"

/-- Reply with a text for people. -/
def plain (status : Nat) (message : String) : Job ε Reply :=
  return { status, body := some (.text message) }

/-- Go on with a value from the path. -/
def withValue {α : Type} (value : Option α) (next : α → Job ε Reply) : Job ε Reply :=
  match value with
  | some value => next value
  | none => plain 400 "Invalid URL"

/-- Go on with the body of a request, read as JSON. -/
def withBody {α : Type} [Wire α] (request : Request) (next : α → Job ε Reply) : Job ε Reply :=
  if !request.announcesJson then plain 415 "Expected a body of type application/json"
  else match (decodeText request.body : Except Fault α) with
    | .ok value => next value
    | .error .malformed => plain 400 "Failed to parse the request body as JSON"
    | .error .mismatched => plain 422 "Failed to deserialize the JSON body into the target type"

/-- The fields of a company, and its administrator if one was created with it. -/
def createdJson (company : Company) (admin : Option User) : Json :=
  .obj (((encode company).fields?.getD []) ++ (admin.map fun user => ("admin", encode user)).toList)

/-- Where a company is found. -/
def companyPath (company : Uuid) : String :=
  "/api/v1/companies/" ++ company.text

/-- Where a workflow is found. -/
def workflowPath (company id : Uuid) : String :=
  companyPath company ++ "/workflows/" ++ id.text

/-- Where alerts are sent. -/
def webhookPath : String := "/webhooks/grafana"

/-- The status of a reply to a call that failed. -/
def webhookStatus : WebhookError → Nat
  | .missingApiKey | .invalidApiKey => 401
  | .disabled => 403
  | .rateLimited => 429
  | .validation _ => 400
  | .execution _ | .storage _ => 500

/-- What the caller is told about a failure.  Trouble with the store stays inside. -/
def webhookFailureText : WebhookError → String
  | .storage _ => "Failed to process webhook"
  | other => other.message

/-- Hand a call from monitoring to the gateway. -/
def receive (timeout : Nat) (request : Request) : Job ε Reply := do
  let result ← (Gateway.handle timeout (request.header? "x-api-key") request.body).attempt
  let time ← now
  let reply (success : Bool) (message : String) : Body :=
    .json (encode ({ success, message, timestamp := time.milliText } : WebhookReply))
  match result with
  | .ok outcome => return { status := 200, body := some (reply true outcome.message) }
  | .error e =>
      return { status := webhookStatus e, body := some (reply false (webhookFailureText e)) }

/-- The state of the service. -/
def healthJson : Json :=
  .obj [("status", .str "ok"), ("version", .str version)]

/-- Create a company. -/
def createCompany (draft : CompanyDraft) : Job ε Reply :=
  serve ((Companies.create draft.name draft.adminEmail).mapError .company)
    (fun created => createdJson created.1 created.2)
    fun created => [⟨"self", companyPath created.1.id⟩]

/-- Show a company. -/
def showCompany (company : Uuid) : Job ε Reply :=
  serveValue do
    let found ← (Companies.get company).mapError .company
    orFail (.company .notFound) found

/-- Issue a configuration. -/
def createConfig (company : Uuid) : Job ε Reply :=
  serve ((WebhookConfigs.create company).mapError .config) encode fun _ =>
    [⟨"trigger", webhookPath⟩]

/-- Remove a configuration. -/
def deleteConfig (company : Uuid) : Job ε Reply :=
  serve ((WebhookConfigs.delete company).mapError .config)
    (fun _ => .obj [("deleted", .bool true)]) fun _ => []

/-- Create a workflow. -/
def createWorkflow (company : Uuid) (draft : WorkflowDraft) : Job ε Reply :=
  serve ((Workflows.create company draft).mapError .workflow) encode fun workflow =>
    [⟨"self", workflowPath company workflow.id⟩]

/-- Remove a workflow. -/
def deleteWorkflow (company id : Uuid) : Job ε Reply :=
  serve ((Workflows.delete company id).mapError .workflow)
    (fun _ => .obj [("deleted", .bool true), ("id", encode id)]) fun _ => []

/-- Change the plan of a company. -/
def changePlan (change : Job WorkflowError PlanReport) : Job ε Reply :=
  serve (change.mapError .workflow) PlanReport.json fun _ => []

/-- A storage error in terms of the API. -/
def ApiError.ofStore (error : StoreError) : ApiError :=
  .internal error.message

/-- Serve a verb that the resource knows. -/
def perform (timeout : Nat) (request : Request) (resource : Resource) (verb : Verb) :
    Job ε Reply :=
  match resource, verb with
  | .health, _ => return { status := 200, body := some (.json healthJson) }
  | .webhook, _ => receive timeout request
  | .companies, _ => withBody request createCompany
  | .company company, _ => withValue (idIn? company) showCompany
  | .admins company, _ => withValue (idIn? company) fun company =>
      withBody request fun (draft : AdminDraft) =>
        serveValue ((Companies.addAdmin company draft.email).mapError .company)
  | .config company, .get => withValue (idIn? company) fun company =>
      serveValue ((WebhookConfigs.get company).mapError .config)
  | .config company, .post => withValue (idIn? company) createConfig
  | .config company, .delete => withValue (idIn? company) deleteConfig
  | .configKey company, _ => withValue (idIn? company) fun company =>
      serveValue ((WebhookConfigs.regenerate company).mapError .config)
  | .configSwitch company flag, _ => withValue (idIn? company) fun company =>
      withValue (flagIn? flag) fun enabled =>
        serveValue ((WebhookConfigs.setEnabled company enabled).mapError .config)
  | .workflows company, .post => withValue (idIn? company) fun company =>
      withBody request (createWorkflow company)
  | .workflows company, _ => withValue (idIn? company) fun company =>
      serveValue ((Workflows.list company).mapError .workflow)
  | .planRestriction company, _ => withValue (idIn? company) fun company =>
      changePlan (Workflows.disableExtra company)
  | .planRelease company, _ => withValue (idIn? company) fun company =>
      changePlan (Workflows.enableAll company)
  | .workflow company id, .delete => withValue (idIn? company) fun company =>
      withValue (idIn? id) (deleteWorkflow company)
  | .workflow company id, _ => withValue (idIn? company) fun company =>
      withValue (idIn? id) fun id =>
        serveValue ((Workflows.get company id).mapError .workflow)
  | .workflowSwitch company id flag, _ => withValue (idIn? company) fun company =>
      withValue (idIn? id) fun id => withValue (flagIn? flag) fun enabled =>
        serveValue ((Workflows.setEnabled company id enabled).mapError .workflow)
  | .workOrders company, _ => withValue (idIn? company) fun company =>
      serveValue ((Desk.listWorkOrders company).mapError .ofStore)
  | .requests company, _ => withValue (idIn? company) fun company =>
      serveValue ((Desk.listRequests company).mapError .ofStore)

/-- Reply to a request for a resource. -/
def answerResource (timeout : Nat) (request : Request) (resource : Resource) : Job ε Reply :=
  let allow := some resource.allow
  if request.method = "OPTIONS" then return { status := 200, allow }
  else match (Verb.ofMethod? request.method).filter fun verb => resource.verbs.contains verb with
    | none => return { status := 405, allow }
    | some verb => do
        let reply ← perform timeout request resource verb
        return if request.method = "HEAD" then reply.bare else reply

/-- Reply to a request.  `timeout` bounds a workflow that an alert sets off, in
milliseconds. -/
def answer (timeout : Nat) (request : Request) : Job ε Reply :=
  match Resource.ofPath? request.path with
  | some resource => answerResource timeout request resource
  | none => return { status := if request.method = "OPTIONS" then 200 else 404 }

end Caretaker.Http
