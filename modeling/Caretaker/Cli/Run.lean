import Caretaker.Admin.Companies
import Caretaker.Admin.WebhookConfigs
import Caretaker.Cli.Command
import Caretaker.Cli.Output

/-!
# Running commands

An errand runs at a desk and ends with what it prints.  Files are read before it
touches the store.
-/

namespace Caretaker.Cli

open Json Job

/-- Why an errand failed. -/
inductive ErrandError where
  | company (error : CompanyError)
  | config (error : WebhookConfigError)
  | workflow (error : WorkflowError)
  | unknownCompany (id : Uuid)
  | unreadableFile (file : String)
  | invalidFile (file : String)
  deriving DecidableEq

/-- How the failure is reported. -/
def ErrandError.message : ErrandError → String
  | .company error => error.message
  | .config error => error.message
  | .workflow error => error.message
  | .unknownCompany id => "Company '" ++ id.text ++ "' not found"
  | .unreadableFile file => "Failed to read " ++ file
  | .invalidFile file => "Invalid workflow JSON in " ++ file

/-- What an errand finds around it: the server's address, the content of files, and
whether JSON is wanted. -/
structure Surroundings where
  server : ServerSettings
  file : String → Option (List UInt8)
  json : Bool

/-- The file that an errand reads. -/
def Errand.file? : Errand → Option String
  | .createWorkflow _ file => some file
  | _ => none

/-- The workflow that a file describes. -/
def readDraft (around : Surroundings) (file : String) : Job ErrandError WorkflowDraft :=
  match around.file file with
  | none => fail (.unreadableFile file)
  | some bytes =>
      if (String.fromUTF8? ⟨bytes.toArray⟩).isNone then fail (.unreadableFile file)
      else match (decodeText bytes : Except Fault WorkflowDraft) with
        | .ok draft => pure draft
        | .error _ => fail (.invalidFile file)

/-- What is printed: JSON if it is wanted. -/
def printed (around : Surroundings) (json : Json) (text : String) : String :=
  if around.json then jsonText json else text

/-- Do something with a configuration and print it. -/
def showing (around : Surroundings) (done : Option String)
    (job : Job WebhookConfigError WebhookConfig) : Job ErrandError String := do
  let config ← job.mapError .config
  return printed around (encode config) (configText around.server done config)

/-- Switch a workflow on or off. -/
def switching (around : Surroundings) (company id : Uuid) (enabled : Bool) :
    Job ErrandError String := do
  let w ← (Workflows.setEnabled company id enabled).mapError .workflow
  return printed around (encode w) (switchedText w)

/-- Change the plan of a company. -/
def planning (around : Surroundings) (headline : String) (job : Job WorkflowError PlanReport) :
    Job ErrandError String := do
  let report ← job.mapError .workflow
  return printed around report.json (planText headline report)

/-- Run an errand, which ends with what it prints. -/
def Errand.run (around : Surroundings) : Errand → Job ErrandError String
  | .createCompany name adminEmail => do
      let (company, admin) ← (Companies.create name adminEmail).mapError .company
      let json := .obj [("admin", encode admin), ("company", encode company)]
      return printed around json (createdCompanyText company admin)
  | .addAdmin company email => do
      let user ← (Companies.addAdmin company email).mapError .company
      return printed around (encode user) (addedAdminText user)
  | .showCompany id => do
      let found ← (Companies.get id).mapError .company
      let company ← orFail (.unknownCompany id) found
      return printed around (encode company) (companyText company)
  | .createConfig company => showing around (some "Created") (WebhookConfigs.create company)
  | .showConfig company => showing around none (WebhookConfigs.get company)
  | .regenerateKey company =>
      showing around (some "Regenerated") (WebhookConfigs.regenerate company)
  | .enableConfig company =>
      showing around (some "Enabled") (WebhookConfigs.setEnabled company true)
  | .disableConfig company =>
      showing around (some "Disabled") (WebhookConfigs.setEnabled company false)
  | .deleteConfig company => do
      (WebhookConfigs.delete company).mapError .config
      let json := .obj [("company_id", encode company), ("deleted", .bool true)]
      return printed around json deletedConfigText
  | .createWorkflow company file => do
      let draft ← readDraft around file
      let w ← (Workflows.create company draft).mapError .workflow
      return printed around (encode w) (createdWorkflowText w)
  | .listWorkflows company => do
      let workflows ← (Workflows.list company).mapError .workflow
      return printed around (encode workflows) (workflowListText workflows)
  | .showWorkflow company id => do
      let w ← (Workflows.get company id).mapError .workflow
      return printed around (encode w) (workflowText w)
  | .deleteWorkflow company id => do
      (Workflows.delete company id).mapError .workflow
      let json := .obj [("deleted", .bool true), ("id", encode id)]
      return printed around json (deletedWorkflowText id)
  | .enableWorkflow company id => switching around company id true
  | .disableWorkflow company id => switching around company id false
  | .disableExtra company =>
      planning around "Restricted plan applied" (Workflows.disableExtra company)
  | .enableAll company => planning around "All workflows enabled" (Workflows.enableAll company)

end Caretaker.Cli
