import Caretaker.Cli.Arguments

/-!
# Commands

What the program can be asked to do, and how a command line asks for it.
-/

namespace Caretaker.Cli

/-- Work that the program does on its store. -/
inductive Errand where
  | createCompany (name : String) (adminEmail : Option String)
  | addAdmin (company : Uuid) (email : String)
  | showCompany (company : Uuid)
  | createConfig (company : Uuid)
  | showConfig (company : Uuid)
  | regenerateKey (company : Uuid)
  | enableConfig (company : Uuid)
  | disableConfig (company : Uuid)
  | deleteConfig (company : Uuid)
  | createWorkflow (company : Uuid) (file : String)
  | listWorkflows (company : Uuid)
  | showWorkflow (company id : Uuid)
  | deleteWorkflow (company id : Uuid)
  | enableWorkflow (company id : Uuid)
  | disableWorkflow (company id : Uuid)
  | disableExtra (company : Uuid)
  | enableAll (company : Uuid)
  deriving DecidableEq

/-- What the program can be asked to do. -/
inductive Command where
  | serve (port : Option Nat) (host : Option String)
  | completions (shell : Shell)
  | errand (errand : Errand)
  deriving DecidableEq

/-- The words that ask for an errand. -/
def Errand.words : Errand → String
  | .createCompany .. => "company create"
  | .addAdmin .. => "company add-admin"
  | .showCompany .. => "company show"
  | .createConfig .. => "webhook create"
  | .showConfig .. => "webhook show"
  | .regenerateKey .. => "webhook regenerate"
  | .enableConfig .. => "webhook enable"
  | .disableConfig .. => "webhook disable"
  | .deleteConfig .. => "webhook delete"
  | .createWorkflow .. => "workflow create"
  | .listWorkflows .. => "workflow list"
  | .showWorkflow .. => "workflow show"
  | .deleteWorkflow .. => "workflow delete"
  | .enableWorkflow .. => "workflow enable"
  | .disableWorkflow .. => "workflow disable"
  | .disableExtra .. => "workflow disable-extra"
  | .enableAll .. => "workflow enable-all"

/-- What an errand was given, each argument in its place. -/
def Errand.arguments : Errand → List (Option Argument)
  | .createCompany name adminEmail => [some (.text name), adminEmail.map .text]
  | .addAdmin company email => [some (.id company), some (.text email)]
  | .createWorkflow company file => [some (.id company), some (.text file)]
  | .showWorkflow company id | .deleteWorkflow company id | .enableWorkflow company id
  | .disableWorkflow company id => [some (.id company), some (.id id)]
  | .showCompany company | .createConfig company | .showConfig company | .regenerateKey company
  | .enableConfig company | .disableConfig company | .deleteConfig company
  | .listWorkflows company | .disableExtra company | .enableAll company => [some (.id company)]

/-- The words that ask for a command. -/
def Command.words : Command → String
  | .serve .. => "serve"
  | .completions _ => "completions"
  | .errand task => task.words

/-- What a command was given, each argument in its place. -/
def Command.arguments : Command → List (Option Argument)
  | .serve port host => [port.map .number, host.map .text]
  | .completions shell => [some (.shell shell)]
  | .errand task => task.arguments

/-- The program listens for calls. -/
def Command.isServe : Command → Bool
  | .serve .. => true
  | _ => false

/-- A command with everything that was said about how to run it. -/
structure Invocation where
  json : Bool
  quiet : Bool
  verbose : Nat
  logFormat : LogFormat
  otel : Bool
  command : Command
  deriving DecidableEq

/-- What is logged in this run. -/
def Invocation.logFilter (invocation : Invocation) : String :=
  Caretaker.logFilter invocation.verbose invocation.quiet invocation.command.isServe

/-- Options that may stand anywhere. -/
def sharedOptions : List OptionSpec :=
  [⟨"json", none, .switch⟩, ⟨"quiet", none, .switch⟩, ⟨"verbose", some 'v', .count⟩,
   ⟨"log-format", none, .takes .logFormat⟩, ⟨"otel", none, .switch⟩, ⟨"help", some 'h', .help⟩,
   ⟨"version", some 'V', .version⟩]

/-- The number behind an option. -/
def numberOf? (options : Options) (name : String) : Option Nat :=
  match options.lookup name with
  | some (.number n) => some n
  | _ => none

/-- The text behind an option. -/
def textOf? (options : Options) (name : String) : Option String :=
  match options.lookup name with
  | some (.text text) => some text
  | _ => none

/-- A command about one company. -/
def onCompany (name : String) (errand : Uuid → Errand) : CommandTree Command :=
  .leaf name [] [.id] fun arguments _ => match arguments with
    | [.id company] => some (.errand (errand company))
    | _ => none

/-- A command about one workflow of a company. -/
def onWorkflow (name : String) (errand : Uuid → Uuid → Errand) : CommandTree Command :=
  .leaf name [] [.id, .id] fun arguments _ => match arguments with
    | [.id company, .id id] => some (.errand (errand company id))
    | _ => none

/-- A command about a company that takes a text besides. -/
def onCompanyWith (name : String) (kind : ArgumentKind) (errand : Uuid → String → Errand) :
    CommandTree Command :=
  .leaf name [] [.id, kind] fun arguments _ => match arguments with
    | [.id company, .text text] => some (.errand (errand company text))
    | _ => none

/-- Listen for calls. -/
def serveCommand : CommandTree Command :=
  .leaf "serve" [⟨"port", some 'p', .takes .port⟩, ⟨"host", none, .takes .text⟩] []
    fun _ options => some (.serve (numberOf? options "port") (textOf? options "host"))

/-- Commands about companies. -/
def companyCommands : CommandTree Command :=
  .group "company"
    [.leaf "create" [⟨"admin-email", none, .takes .text⟩] [.text] fun arguments options =>
        match arguments with
        | [.text name] => some (.errand (.createCompany name (textOf? options "admin-email")))
        | _ => none,
     onCompanyWith "add-admin" .text .addAdmin,
     onCompany "show" .showCompany]

/-- Commands about webhook configurations. -/
def webhookCommands : CommandTree Command :=
  .group "webhook"
    [onCompany "create" .createConfig, onCompany "show" .showConfig,
     onCompany "regenerate" .regenerateKey, onCompany "enable" .enableConfig,
     onCompany "disable" .disableConfig, onCompany "delete" .deleteConfig]

/-- Commands about workflows. -/
def workflowCommands : CommandTree Command :=
  .group "workflow"
    [onCompanyWith "create" .path .createWorkflow, onCompany "list" .listWorkflows,
     onWorkflow "show" .showWorkflow, onWorkflow "delete" .deleteWorkflow,
     onWorkflow "enable" .enableWorkflow, onWorkflow "disable" .disableWorkflow,
     onCompany "disable-extra" .disableExtra, onCompany "enable-all" .enableAll]

/-- Completions for a shell. -/
def completionsCommand : CommandTree Command :=
  .leaf "completions" [] [.shell] fun arguments _ => match arguments with
    | [.shell shell] => some (.completions shell)
    | _ => none

/-- All commands. -/
def commands : CommandTree Command :=
  .group "maintflow"
    [serveCommand, companyCommands, webhookCommands, workflowCommands, completionsCommand]

/-- Read a command line, which does not have the name of the program. -/
def parse (line : List String) : Except Usage Invocation := do
  let (command, levels) ← readLine sharedOptions commands line
  let on (name : String) : Bool := (sharedValue levels name).isSome
  let verbose := match sharedValue levels "verbose" with
    | some (.number n) => n
    | _ => 0
  let logFormat := match sharedValue levels "log-format" with
    | some (.logFormat format) => format
    | _ => .pretty
  return { json := on "json", quiet := on "quiet", verbose, logFormat, otel := on "otel", command }

/-- What the program prints when it is asked for its version. -/
def versionText (usage : Usage) : String :=
  "-".intercalate usage.path ++ " 0.1.0\n"

end Caretaker.Cli
