import Caretaker.Desk.Access
import Caretaker.Text.WhiteSpace

/-!
# Administration of companies

Companies are created by name, with or without a first administrator.  The
administrators of a company are told when an alert could not be handled.
-/

namespace Caretaker

open Job Text

/-- Why a company or an administrator was refused. -/
inductive CompanyError where
  | invalid (reason : String)
  | notFound
  | storage (reason : String)
  deriving DecidableEq

/-- How the refusal is reported. -/
def CompanyError.message : CompanyError → String
  | .invalid reason => "invalid company: " ++ reason
  | .notFound => "company not found"
  | .storage reason => "storage error: " ++ reason

/-- A storage error in the terms of company administration. -/
def CompanyError.ofStore (error : StoreError) : CompanyError :=
  .storage error.message

namespace Companies

/-- The company with an identifier. -/
def get (id : Uuid) : Job CompanyError (Option Company) :=
  (Desk.findCompany id).mapError .ofStore

/-- Add an administrator to a company. -/
def addAdmin (company : Uuid) (email : String) : Job CompanyError User := do
  let email := trim email
  if !email.contains '@' then
    fail (.invalid ("'" ++ email ++ "' is not an email address"))
  else
    match ← get company with
    | none => fail .notFound
    | some _ =>
        let id ← freshId
        (Desk.createUser { id, companyId := company, email, role := .admin }).mapError .ofStore

/-- Create a company, with an administrator unless the address is missing or
blank. -/
def create (name : String) (adminEmail : Option String) :
    Job CompanyError (Company × Option User) := do
  let name := trim name
  if name.isEmpty then fail (.invalid "name cannot be empty")
  else
    let id ← freshId
    let createdAt ← now
    let company ← (Desk.createCompany { id, name, createdAt }).mapError CompanyError.ofStore
    match adminEmail.filter fun email => !isBlank email with
    | none => return (company, none)
    | some email =>
        let admin ← addAdmin company.id email
        return (company, some admin)

end Companies

end Caretaker
