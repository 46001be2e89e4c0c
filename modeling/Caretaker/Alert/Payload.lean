import Caretaker.Alert.Basic
import Caretaker.Text.WhiteSpace

/-!
# Alert payloads

The body of a webhook call holds an alert in one of two shapes.  In the native
shape the alert stands under `body`, next to `headers`; in the flat shape its
fields stand at the top.  An object with both names is native and any other one
is flat.

Both shapes lead to the same alert except for custom data.  A native payload keeps
all of its custom data as additional information and has the priority "medium"
where none is given; a flat payload has its fields taken one by one.
-/

namespace Caretaker

open Json Text

namespace Payload

/-- How the fields of an alert are laid out. -/
inductive Shape where
  | native
  | flat
  deriving DecidableEq

/-- The fields of an object. -/
abbrev Fields := List (String × Json)

/-- The object has a field of this name. -/
def has (fields : Fields) (name : String) : Bool :=
  (fields.lookup name).isSome

/-- The shape of a payload. -/
def Shape.detect (fields : Fields) : Shape :=
  if has fields "body" && has fields "headers" then .native else .flat

/-- Why a payload holds no alert. -/
inductive Error where
  | notJson
  | notObject
  | bodyNotObject
  | missing (shape : Shape) (field : String)
  | customDataNotObject
  deriving DecidableEq

/-- What is said about a payload of the shape before the fault itself. -/
def Shape.label : Shape → String
  | .native => "Invalid Grafana native webhook format"
  | .flat => "Invalid Grafana webhook format"

/-- How a faulty payload is reported. -/
def Error.message : Error → String
  | .notJson => "Invalid webhook payload: not a JSON text"
  | .notObject => "Invalid webhook payload: expected a JSON object"
  | .bodyNotObject => Shape.native.label ++ ": body must be a JSON object"
  | .missing .native field =>
      Shape.native.label ++ ": " ++ field ++ " is required in Grafana webhook body"
  | .missing .flat field => Shape.flat.label ++ ": " ++ field ++ " is required"
  | .customDataNotObject => Shape.flat.label ++ ": customData must be a JSON object"

/-- The text of a string, a number or a truth value. -/
def scalarText? : Json → Option String
  | .str s => some s
  | .num n => some n.text
  | .bool true => some "true"
  | .bool false => some "false"
  | .null | .arr _ | .obj _ => none

/-- The text of a field, if it has one that is not blank. -/
def textOf? (fields : Fields) (name : String) : Option String :=
  ((fields.lookup name).bind scalarText?).filter fun text => !isBlank text

/-- The text of a field that an alert cannot do without. -/
def requiredText (shape : Shape) (fields : Fields) (name : String) : Except Error String :=
  match textOf? fields name with
  | some text => .ok text
  | none => .error (.missing shape name)

/-- The alert in an object, without its custom data. -/
def alertOf (shape : Shape) (fields : Fields) : Except Error Alert := do
  let alertId ← requiredText shape fields "alertId"
  let alertName ← requiredText shape fields "alertName"
  let status ← requiredText shape fields "status"
  let severity ← requiredText shape fields "severity"
  return {
    alertId, alertName, status, severity
    dashboardId := textOf? fields "dashboardId"
    panelId := textOf? fields "panelId"
    ruleUrl := textOf? fields "ruleUrl"
    evaluationTime := textOf? fields "evaluationTime"
    values := ((fields.lookup "values").bind fields?).getD []
    message := textOf? fields "message"
    customData := none }

/-- Custom data of the native shape. -/
def nativeCustomData (fields : Fields) : CustomData :=
  { workflowId := (fields.lookup "workflowId").bind scalarText?
    priority := some (((fields.lookup "priority").bind scalarText?).getD "medium")
    additionalInfo := fields }

/-- Custom data of the flat shape. -/
def flatCustomData (fields : Fields) : CustomData :=
  { workflowId := (fields.lookup "workflowId").bind scalarText?
    priority := (fields.lookup "priority").bind scalarText?
    additionalInfo := ((fields.lookup "additionalInfo").bind fields?).getD [] }

/-- The alert of a native payload. -/
def native (fields : Fields) : Except Error Alert :=
  match fields.lookup "body" with
  | some (.obj body) => do
      let alert ← alertOf .native body
      return { alert with
        customData := ((body.lookup "customData").bind fields?).map nativeCustomData }
  | _ => .error .bodyNotObject

/-- The alert of a flat payload. -/
def flat (fields : Fields) : Except Error Alert := do
  let alert ← alertOf .flat fields
  match fields.lookup "customData" with
  | none | some .null => return alert
  | some (.obj data) => return { alert with customData := some (flatCustomData data) }
  | some _ => throw .customDataNotObject

/-- The alert in a payload. -/
def normalize : Json → Except Error Alert
  | .obj fields => match Shape.detect fields with
      | .native => native fields
      | .flat => flat fields
  | _ => .error .notObject

/-- The alert in the body of a call. -/
def normalizeBytes (bytes : List UInt8) : Except Error Alert :=
  match parse? bytes with
  | some payload => normalize payload
  | none => .error .notJson

end Payload

end Caretaker
