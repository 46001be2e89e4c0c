import Caretaker.Admin.Companies
import Caretaker.Admin.WebhookConfigs
import Caretaker.Admin.Workflows
import Caretaker.Http.Message

/-!
# Envelopes

Every administrative reply is an envelope: the data or the errors, when and for
which request it was made, and links to what was created.  An error has a code for
programs besides its message, and a status of its own.
-/

namespace Caretaker.Http

open Json Calendar Job

/-- Why an administrative request was not served. -/
inductive ApiError where
  | workflow (error : WorkflowError)
  | config (error : WebhookConfigError)
  | company (error : CompanyError)
  | internal (reason : String)
  deriving DecidableEq

namespace ApiError

/-- The status of the reply. -/
def status : ApiError → Nat
  | .workflow .notFound | .config .notFound | .config .companyNotFound | .company .notFound => 404
  | .workflow (.invalid _) | .company (.invalid _) => 400
  | .config .alreadyExists => 409
  | .workflow (.storage _) | .config (.storage _) | .company (.storage _) | .internal _ => 500

/-- The code for programs. -/
def code : ApiError → String
  | .workflow .notFound => "WORKFLOW_NOT_FOUND"
  | .config .notFound => "WEBHOOK_CONFIG_NOT_FOUND"
  | .config .companyNotFound | .company .notFound => "COMPANY_NOT_FOUND"
  | .workflow (.invalid _) | .company (.invalid _) => "VALIDATION_ERROR"
  | .config .alreadyExists => "CONFLICT"
  | .workflow (.storage _) => "WORKFLOW_ERROR"
  | .config (.storage _) => "WEBHOOK_CONFIG_ERROR"
  | .company (.storage _) => "COMPANY_ERROR"
  | .internal _ => "INTERNAL_ERROR"

/-- The message for people. -/
def message : ApiError → String
  | .workflow .notFound => "Workflow not found"
  | .config .notFound => "Webhook config not found"
  | .config .companyNotFound | .company .notFound => "Company not found"
  | .workflow (.invalid reason) | .company (.invalid reason) => reason
  | .config .alreadyExists => WebhookConfigError.alreadyExists.message
  | .workflow (.storage reason) => (WorkflowError.storage reason).message
  | .config (.storage reason) => (WebhookConfigError.storage reason).message
  | .company (.storage reason) => (CompanyError.storage reason).message
  | .internal reason => reason

end ApiError

/-- When and for which request a reply was made. -/
structure Stamp where
  requestId : Uuid
  time : Instant
  millis : Nat

/-- The stamp as part of an envelope. -/
def Stamp.json (stamp : Stamp) : Json :=
  .obj [("request_id", encode stamp.requestId), ("timestamp", .str stamp.time.offsetText),
    ("response_time_ms", ofNat stamp.millis)]

/-- A link from a reply to a resource. -/
structure Link where
  relation : String
  target : String

/-- The envelope of a reply with data. -/
def dataEnvelope (stamp : Stamp) (data : Json) (links : List Link) : Json :=
  let linkFields := links.map fun link => (link.relation, Json.str link.target)
  record [("data", some data), ("meta", some stamp.json),
    ("_links", if linkFields.isEmpty then none else some (.obj linkFields))]

/-- The envelope of a reply with an error. -/
def errorEnvelope (stamp : Stamp) (error : ApiError) : Json :=
  let detail := .obj [("code", .str error.code), ("message", .str error.message)]
  .obj [("meta", stamp.json), ("errors", .arr [detail])]

/-- Reply to a request that was not served. -/
def refuse {ε : Type} (error : ApiError) : Job ε Reply := do
  let requestId ← freshId
  let time ← now
  let envelope := errorEnvelope { requestId, time, millis := 0 } error
  return { status := error.status, body := some (.json envelope) }

/-- Do the work of a request, and reply with its result and with links to it. -/
def serve {ε α : Type} (work : Job ApiError α) (display : α → Json) (links : α → List Link) :
    Job ε Reply := do
  let requestId ← freshId
  let started ← nanos
  match ← work.attempt with
  | .error error => refuse error
  | .ok value =>
      let finished ← nanos
      let time ← now
      let stamp : Stamp := { requestId, time, millis := (finished - started) / 1000000 }
      let envelope := dataEnvelope stamp (display value) (links value)
      return { status := 200, body := some (.json envelope) }

/-- Do the work of a request, and reply with its result. -/
def serveValue {ε α : Type} [Wire α] (work : Job ApiError α) : Job ε Reply :=
  serve work encode fun _ => []

end Caretaker.Http
