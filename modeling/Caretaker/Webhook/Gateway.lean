import Caretaker.Alert.Payload
import Caretaker.Engine.Events

/-!
# The webhook gateway

Monitoring calls in here.  A call passes its gates in a fixed order: it needs a
key, a token of the key's bucket, a configuration with that key that is switched
on, and a payload with an alert.  Only then is a workflow selected and run.  When
running it fails or takes too long, the administrators of the company are told by
mail, and whether that mail arrives changes nothing for the caller.
-/

namespace Caretaker

open Job Text

/-- Why a call was turned away or failed. -/
inductive WebhookError where
  | missingApiKey
  | invalidApiKey
  | disabled
  | rateLimited
  | validation (reason : String)
  | execution (reason : String)
  | storage (reason : String)
  deriving DecidableEq

/-- How the failure is reported. -/
def WebhookError.message : WebhookError → String
  | .missingApiKey => "API key is required"
  | .invalidApiKey => "Invalid API key"
  | .disabled => "Webhook is disabled for this company"
  | .rateLimited => "Rate limit exceeded"
  | .validation reason => reason
  | .execution reason => "Failed to execute workflow: " ++ reason
  | .storage reason => "storage error: " ++ reason

/-- A storage error in the terms of the gateway. -/
def WebhookError.ofStore (error : StoreError) : WebhookError :=
  .storage error.message

/-- How a call ended that was let in. -/
inductive WebhookResult where
  | executed (workflowId : Uuid) (effect : Effect)
  | noMatch
  deriving DecidableEq

/-- What the caller is told. -/
def WebhookResult.message : WebhookResult → String
  | .executed .. => "Workflow executed successfully"
  | .noMatch => "No matching workflow found for this alert"

/-- A duration in the largest unit that it reaches, without trailing zeros. -/
def durationText (millis : Nat) : String :=
  if millis = 0 then "0ns"
  else if millis < 1000 then ofNat millis ++ "ms"
  else
    let fraction := ((fixedDigits 10 3 (millis % 1000)).reverse.dropWhile (· == '0')).reverse
    ofNat (millis / 1000) ++
      (if fraction.isEmpty then "" else "." ++ String.ofList fraction) ++ "s"

namespace Gateway

/-- The mail text about a failed alert. -/
def failureText (alert : Alert) (company error : String) : String :=
  "Dear Administrator,\n\n" ++
  "An error occurred while processing a webhook alert for your company.\n\n" ++
  "Alert: " ++ alert.alertName ++ "\n" ++
  "Severity: " ++ alert.severity ++ "\n" ++
  "Status: " ++ alert.status ++ "\n" ++
  "Company: " ++ company ++ "\n" ++
  "Error: " ++ error ++ "\n\n" ++
  "Please review your workflow configuration.\n\n" ++
  "Best regards,\nMaintflow"

/-- Send mails one after the other.  A mail that cannot be delivered is passed over;
a relay that stalls keeps the rest from being sent. -/
def sendAll (mails : List Mail) : Job WebhookError Unit :=
  ⟨fun desk =>
    let sent := match desk.outages.lookup .sendMail with
      | some .stalls => mails.take 1
      | _ => mails
    (.done (), { desk with outbox := desk.outbox ++ sent })⟩

/-- Tell the administrators of a company about a failure. -/
def notifyAdmins (company : Uuid) (alert : Alert) (error : String) : Job WebhookError Unit := do
  let name ← match ← (Desk.findCompany company).attempt with
    | .ok (some found) => pure found.name
    | .ok none | .error _ => pure company.text
  match ← (Desk.findAdmins company).attempt with
  | .error _ => return ()
  | .ok admins =>
      let subject := "Webhook Processing Error: " ++ alert.alertName
      let body := failureText alert name error
      sendAll (admins.map fun admin => { recipient := admin.email, subject, body })

/-- The configuration that lets a key in. -/
def resolve (apiKey : String) : Job WebhookError WebhookConfig := do
  let found ← (Desk.findConfigByKey apiKey).mapError .ofStore
  let config ← orFail .invalidApiKey found
  if config.enabled then return config else fail .disabled

/-- The alert in a payload. -/
def normalize (payload : List UInt8) : Job WebhookError Alert :=
  match Payload.normalizeBytes payload with
  | .ok alert => pure alert
  | .error e => fail (.validation e.message)

/-- Tell the administrators about a failure, and end with it. -/
def giveUp (company : Uuid) (alert : Alert) (failure : String) :
    Job WebhookError WebhookResult := do
  notifyAdmins company alert failure
  fail (.execution failure)

/-- What a caller reads when a workflow took longer than `timeout` milliseconds. -/
def timeoutText (timeout : Nat) : String :=
  "dispatch timed out after " ++ durationText timeout

/-- Run the selected workflow.  `timeout` is in milliseconds. -/
def execute (timeout : Nat) (company : Uuid) (w : Workflow) (alert : Alert) :
    Job WebhookError WebhookResult := do
  match ← (Dispatch.alert w alert).supervise with
  | .done effect => return .executed w.id effect
  | .failed e => giveUp company alert e.message
  | .stalled => giveUp company alert (timeoutText timeout)

/-- Process one call. -/
def handle (timeout : Nat) (apiKey : Option String) (payload : List UInt8) :
    Job WebhookError WebhookResult := do
  let key ← orFail .missingApiKey (apiKey.filter fun key => !key.isEmpty)
  if !(← takeToken (webhookBucket key)) then fail .rateLimited
  else
    let config ← resolve key
    let alert ← normalize payload
    let selected ← (Engine.select config.companyId .webhook (.alert alert)).mapError .ofStore
    match selected with
    | none => return .noMatch
    | some w => execute timeout config.companyId w alert

end Gateway

end Caretaker
