import Caretaker.Admin.Workflows
import Caretaker.Company
import Caretaker.Json.Printer
import Caretaker.Settings.Basic
import Caretaker.Text.Frame
import Caretaker.Webhook.Config

/-!
# Output of commands

What a command prints, for people or as JSON.
-/

namespace Caretaker.Cli

open Json

/-- Lines, each with its end. -/
def lines (texts : List String) : String :=
  String.join (texts.map fun text => text ++ "\n")

/-- A value as JSON over several lines. -/
def jsonText (value : Json) : String :=
  pretty 0 value ++ "\n"

/-- A headline after a star. -/
def starred (text : String) : String :=
  "  * " ++ text

/-- A company was created. -/
def createdCompanyText (company : Company) (admin : Option User) : String :=
  lines <|
    ["", starred ("Created company '" ++ company.name ++ "'"), "  ID: " ++ company.id.text] ++
    (admin.map fun user => "  Admin: " ++ user.email).toList ++
    ["", "  Next: maintflow webhook create " ++ company.id.text, ""]

/-- An administrator was added. -/
def addedAdminText (user : User) : String :=
  lines ["", starred ("Added administrator " ++ user.email), ""]

/-- A company. -/
def companyText (company : Company) : String :=
  lines ["", "  " ++ company.name, "  ID:      " ++ company.id.text,
    "  Created: " ++ company.createdAt.minuteText, ""]

/-- A configuration, after what was done with it. -/
def configText (server : ServerSettings) (done : Option String) (config : WebhookConfig) :
    String :=
  lines <|
    [""] ++ (done.map fun verb => starred (verb ++ " webhook config")).toList ++
    ["  Company: " ++ config.companyId.text, "  API key: " ++ config.apiKey,
      "  Status:  " ++ (if config.enabled then "enabled" else "disabled"),
      "  Endpoint: POST http://" ++ server.host ++ ":" ++ Text.ofNat server.port ++
        "/webhooks/grafana  (header X-API-Key)", ""]

/-- A configuration was removed. -/
def deletedConfigText : String :=
  lines ["", starred "Webhook config deleted", ""]

/-- A workflow was created. -/
def createdWorkflowText (w : Workflow) : String :=
  lines ["", starred ("Created workflow '" ++ w.title ++ "'"), "  ID: " ++ w.id.text,
    "  Trigger: " ++ word w.trigger, "  Conditions: " ++ Text.ofNat w.conditions.length, ""]

/-- The cells of a workflow in a list. -/
def workflowCells (w : Workflow) : List String :=
  [w.title, word w.trigger, Text.ofNat w.conditions.length, if w.enabled then "yes" else "no",
    w.createdAt.minuteText, w.id.text]

/-- A list of workflows. -/
def workflowListText (workflows : List Workflow) : String :=
  if workflows.isEmpty then
    lines ["", "  No workflows.",
      "  Create one with: maintflow workflow create <company-id> <file.json>", ""]
  else
    lines ["", Text.frame ["Title", "Trigger", "Conditions", "Enabled", "Created", "ID"]
      (workflows.map workflowCells), ""]

/-- A workflow with its conditions and its action. -/
def workflowText (w : Workflow) : String :=
  lines ["", "  " ++ w.title, "  ID:      " ++ w.id.text, "  Trigger: " ++ word w.trigger,
    "  Enabled: " ++ (if w.enabled then "true" else "false"),
    "  Conditions:", pretty 0 (encode w.conditions), "  Action:", pretty 0 (encode w.action), ""]

/-- A workflow was removed. -/
def deletedWorkflowText (id : Uuid) : String :=
  lines ["", starred ("Workflow " ++ id.text ++ " deleted"), ""]

/-- A workflow was switched. -/
def switchedText (w : Workflow) : String :=
  lines ["", starred ("'" ++ w.title ++ "' is now " ++
    (if w.enabled then "enabled" else "disabled")), ""]

/-- The plan of a company was changed. -/
def planText (headline : String) (report : PlanReport) : String :=
  lines <|
    ["", starred headline] ++
    (report.kept.map fun id => "  Kept enabled: " ++ id.text).toList ++
    ["  Workflows updated: " ++ Text.ofNat report.updated, ""]

end Caretaker.Cli
