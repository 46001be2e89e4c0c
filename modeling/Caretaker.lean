import Caretaker.Admin.Companies
import Caretaker.Admin.WebhookConfigs
import Caretaker.Admin.Workflows
import Caretaker.Alert.Basic
import Caretaker.Alert.Payload
import Caretaker.Calendar.Date
import Caretaker.Calendar.Epoch
import Caretaker.Calendar.Instant
import Caretaker.Calendar.Reading
import Caretaker.Cli.Arguments
import Caretaker.Cli.Command
import Caretaker.Cli.Folder
import Caretaker.Cli.Output
import Caretaker.Cli.Run
import Caretaker.Company
import Caretaker.Decimal.Extended
import Caretaker.Decimal.Shortest
import Caretaker.Desk.Access
import Caretaker.Desk.Basic
import Caretaker.Desk.Source
import Caretaker.Engine.Dispatch
import Caretaker.Engine.Events
import Caretaker.Host.Composition
import Caretaker.Host.CompositionTable
import Caretaker.Host.Label
import Caretaker.Host.LabelTable
import Caretaker.Host.Mapping
import Caretaker.Host.MappingTable
import Caretaker.Host.Name
import Caretaker.Host.Punycode
import Caretaker.Http.Envelope
import Caretaker.Http.MediaType
import Caretaker.Http.Message
import Caretaker.Http.Resource
import Caretaker.Http.Service
import Caretaker.Http.Target
import Caretaker.Json.Basic
import Caretaker.Json.Document
import Caretaker.Json.Number
import Caretaker.Json.Printer
import Caretaker.Json.Token
import Caretaker.Json.Wire
import Caretaker.Logging
import Caretaker.Mail.Delivery
import Caretaker.Mail.Mailbox
import Caretaker.Main
import Caretaker.Maintenance
import Caretaker.RateLimit
import Caretaker.Settings.Basic
import Caretaker.Settings.Environment
import Caretaker.Settings.File
import Caretaker.Store.Basic
import Caretaker.Store.Cell
import Caretaker.Store.Error
import Caretaker.Store.Maintenance
import Caretaker.Store.Numeral
import Caretaker.Store.Rows
import Caretaker.Store.Schema
import Caretaker.Store.Snapshot
import Caretaker.Store.Tenants
import Caretaker.Store.Workflows
import Caretaker.Text.CaseTable
import Caretaker.Text.Casing
import Caretaker.Text.Digits
import Caretaker.Text.Frame
import Caretaker.Text.LetterTable
import Caretaker.Text.Letters
import Caretaker.Text.Table
import Caretaker.Text.WhiteSpace
import Caretaker.Text.Width
import Caretaker.Text.WidthTable
import Caretaker.Toml.Document
import Caretaker.Toml.Scalar
import Caretaker.Toml.Value
import Caretaker.Uuid
import Caretaker.Vocabulary
import Caretaker.Webhook.Config
import Caretaker.Webhook.Digest
import Caretaker.Webhook.Gateway
import Caretaker.Workflow.Basic
import Caretaker.Workflow.Selection
import Caretaker.Proofs.Text.Digits
import Caretaker.Proofs.Uuid
import Caretaker.Proofs.Calendar.StoredForm
import Caretaker.Proofs.Calendar.WireForm
import Caretaker.Proofs.Store.Rows
import Caretaker.Proofs.Store.Reading
import Caretaker.Proofs.Store.Spread
import Caretaker.Proofs.Store.Assembly
import Caretaker.Proofs.Store.Reachable
import Caretaker.Proofs.Desk.Orderly
import Caretaker.Proofs.Desk.Access
import Caretaker.Proofs.Operations
import Caretaker.Proofs.Store.Legibility
import Caretaker.Proofs.Reads
import Caretaker.Proofs.Store.Candidates
import Caretaker.Proofs.Winner
import Caretaker.Proofs.Store.Share
import Caretaker.Proofs.Desk.Alongside
import Caretaker.Proofs.Desk.InStep
import Caretaker.Proofs.Buckets
import Caretaker.Proofs.Alert.Shapes
import Caretaker.Proofs.Alert.Canonical
import Caretaker.Proofs.Decimal.Finite
import Caretaker.Proofs.Json.Building
import Caretaker.Proofs.Json.Shape
import Caretaker.Proofs.Json.Finite
import Caretaker.Proofs.Json.Records
import Caretaker.Proofs.Json.Lawful
import Caretaker.Proofs.Text.Bytes
import Caretaker.Proofs.Json.Lexing
import Caretaker.Proofs.Json.Integers
import Caretaker.Proofs.Json.Compact
import Caretaker.Proofs.Json.Parsing
import Caretaker.Proofs.Json.TextForms
import Caretaker.Proofs.WireForms
import Caretaker.Proofs.Tenancy
import Caretaker.Proofs.Store.Kept
import Caretaker.Proofs.WorkflowMap
import Caretaker.Proofs.WorkflowTables
import Caretaker.Proofs.Desk.Preserving
import Caretaker.Proofs.Bystanders
import Caretaker.Proofs.AlertDispatch
import Caretaker.Proofs.Store.Loaded
import Caretaker.Proofs.GateOrder
import Caretaker.Proofs.Disregard
import Caretaker.Proofs.Execution
import Caretaker.Proofs.Store.Configs
import Caretaker.Proofs.KeyHistory
import Caretaker.Proofs.KeyLifecycle
import Caretaker.Proofs.Store.Seniority
import Caretaker.Proofs.Store.Aligned
import Caretaker.Proofs.Desk.Maintaining
import Caretaker.Proofs.Text.ByteOrder
import Caretaker.Proofs.Filing
import Caretaker.Proofs.MaintenanceTables
import Caretaker.Proofs.Survivor
import Caretaker.Proofs.Administration
import Caretaker.Proofs.TenantTables
import Caretaker.Proofs.RestrictedPlan
import Caretaker.Proofs.Alert.Acceptance
import Caretaker.Proofs.Allowance
import Caretaker.Proofs.SelectedChange
import Caretaker.Proofs.TicketPaths
import Caretaker.Proofs.Decimal.Level
import Caretaker.Proofs.Narrowing
import Caretaker.Proofs.CompanyCreation
import Caretaker.Proofs.OwnWrites
import Caretaker.Proofs.Uncounted
import Caretaker.Proofs.Numbering
import Caretaker.Proofs.OrderNumbers
import Caretaker.Proofs.PossibleConditions
import Caretaker.Proofs.WorkflowCreation
import Caretaker.Proofs.Calendar.Succession
import Caretaker.Proofs.Store.Ascending
import Caretaker.Proofs.StoredOrder
