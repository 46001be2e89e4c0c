import Caretaker.Json.Printer
import Caretaker.Maintenance

/-!
# Alerts

A monitoring alert lives for one call and is never stored.  Texts such as status
and severity are kept as the sender wrote them.

The priority of what an alert creates comes from its custom data: the `priority`
entry of the additional information if it has a value, otherwise the priority
given beside it.  Only "high" and "low", in any case, say something else than
medium.
-/

namespace Caretaker

open Json Text

/-- What the sender of an alert adds to it. -/
structure CustomData where
  workflowId : Option String
  priority : Option String
  additionalInfo : List (String × Json)

/-- A monitoring alert. -/
structure Alert where
  alertId : String
  alertName : String
  status : String
  severity : String
  dashboardId : Option String
  panelId : Option String
  ruleUrl : Option String
  evaluationTime : Option String
  values : List (String × Json)
  message : Option String
  customData : Option CustomData

instance : Wire CustomData where
  encode data := record
    [putSome "workflowId" data.workflowId, putSome "priority" data.priority,
      ("additionalInfo", some (.obj data.additionalInfo))]
  read := Record.read <|
    CustomData.mk <$> omittable "workflowId" <*> omittable "priority" <*>
    defaulted "additionalInfo" readFields []

instance : Wire Alert where
  encode alert := record
    [put "alertId" alert.alertId, put "alertName" alert.alertName, put "status" alert.status,
      put "severity" alert.severity, putSome "dashboardId" alert.dashboardId,
      putSome "panelId" alert.panelId, putSome "ruleUrl" alert.ruleUrl,
      putSome "evaluationTime" alert.evaluationTime, ("values", some (.obj alert.values)),
      putSome "message" alert.message, putSome "customData" alert.customData]
  read := Record.read <|
    Alert.mk <$> required "alertId" <*> required "alertName" <*> required "status" <*>
    required "severity" <*> omittable "dashboardId" <*> omittable "panelId" <*>
    omittable "ruleUrl" <*> omittable "evaluationTime" <*> defaulted "values" readFields [] <*>
    omittable "message" <*> omittable "customData"

/-- The message of an alert, empty when it has none. -/
def Alert.messageText (alert : Alert) : String :=
  alert.message.getD ""

/-- A value of the additional information as text; `null` says nothing. -/
def valueText? : Json → Option String
  | .str s => some s
  | .null => none
  | other => some (compact other)

/-- The text that custom data gives for the priority. -/
def CustomData.priorityText? (data : CustomData) : Option String :=
  ((data.additionalInfo.lookup "priority").bind valueText?).or data.priority

/-- The priority that a text asks for. -/
def Priority.ofText (text : Option String) : Priority :=
  match text.map lower with
  | some "high" => .high
  | some "low" => .low
  | _ => .medium

/-- The priority of what an alert creates. -/
def Alert.priority (alert : Alert) : Priority :=
  .ofText (alert.customData.bind CustomData.priorityText?)

end Caretaker
