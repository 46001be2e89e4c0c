import Caretaker.Store.Basic

/-!
# Companies, users and configurations in the store

Identifiers, e-mail addresses, keys and the company of a configuration are each
unique, and users and configurations name a company that exists.  A duplicate is
reported before a missing company.
-/

namespace Caretaker.Store

/-- Add a company. -/
def addCompany (s : Store) (company : Company) : Except StoreError Store := do
  s.require .companies
  if s.companies.any fun row => row.id == company.id.text then
    throw (.conflict (.company company.id.text))
  return { s with companies := s.companies ++ [.ofCompany company] }

/-- The company with an identifier. -/
def findCompany (s : Store) (id : Uuid) : Except StoreError (Option Company) := do
  s.require .companies
  readOne CompanyRow.company (s.companies.find? fun row => row.id == id.text)

/-- A company with this identifier is stored. -/
def hasCompany (s : Store) (id : String) : Bool :=
  s.companies.any fun row => row.id == id

/-- Add a user. -/
def addUser (s : Store) (user : User) : Except StoreError Store := do
  s.require .users
  if s.users.any fun row => row.id == user.id.text || row.email == user.email then
    throw (.conflict (.email user.email))
  if !s.hasCompany user.companyId.text then
    throw (.query .danglingReference)
  return { s with users := s.users ++ [.ofUser user] }

/-- The administrators of a company, by e-mail address. -/
def findAdmins (s : Store) (company : Uuid) : Except StoreError (List User) := do
  s.require .users
  let rows := s.users.filter fun row =>
    row.companyId == company.text && row.role == Json.word Role.admin
  readAll UserRow.user (rows.mergeSort fun a b => decide (a.email ≤ b.email))

/-- Add a configuration. -/
def addConfig (s : Store) (config : WebhookConfig) : Except StoreError Store := do
  s.require .webhookConfigs
  let taken := s.configs.any fun row =>
    row.id == config.id.text || row.companyId == config.companyId.text ||
      row.apiKey == config.apiKey
  if taken then throw (.conflict (.config config.companyId.text))
  if !s.hasCompany config.companyId.text then
    throw (.query .danglingReference)
  return { s with configs := s.configs ++ [.ofConfig config] }

/-- The configuration of a company. -/
def findConfigOf (s : Store) (company : Uuid) : Except StoreError (Option WebhookConfig) := do
  s.require .webhookConfigs
  readOne ConfigRow.config (s.configs.find? fun row => row.companyId == company.text)

/-- The configuration with a key. -/
def findConfigByKey (s : Store) (apiKey : String) :
    Except StoreError (Option WebhookConfig) := do
  s.require .webhookConfigs
  readOne ConfigRow.config (s.configs.find? fun row => row.apiKey == apiKey)

/-- Write key, flag and time of change into the row with the configuration's
identifier. -/
def updateConfig (s : Store) (config : WebhookConfig) : Except StoreError Store := do
  s.require .webhookConfigs
  if !(s.configs.any fun row => row.id == config.id.text) then throw .notFound
  if s.configs.any fun row => row.id != config.id.text && row.apiKey == config.apiKey then
    throw (.conflict .apiKey)
  let write (row : ConfigRow) : ConfigRow :=
    if row.id == config.id.text then
      { row with
        apiKey := config.apiKey
        enabled := .ofBool config.enabled
        updatedAt := config.updatedAt.storedText }
    else row
  return { s with configs := s.configs.map write }

/-- Remove the configuration of a company, and say whether there was one. -/
def removeConfigOf (s : Store) (company : Uuid) : Except StoreError (Bool × Store) := do
  s.require .webhookConfigs
  let found := s.configs.any fun row => row.companyId == company.text
  return (found,
    { s with configs := s.configs.filter fun row => row.companyId != company.text })

end Caretaker.Store
