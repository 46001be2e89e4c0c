import Caretaker.Desk.Access

/-!
# Administration of webhook configurations

A company has at most one configuration.  Its key can be replaced, after which the
old key is worth nothing, and it can be switched off and on.
-/

namespace Caretaker

open Job

/-- Why a configuration was not created, found or changed. -/
inductive WebhookConfigError where
  | notFound
  | alreadyExists
  | companyNotFound
  | storage (reason : String)
  deriving DecidableEq

/-- How the refusal is reported. -/
def WebhookConfigError.message : WebhookConfigError → String
  | .notFound => "webhook config not found"
  | .alreadyExists => "Webhook config already exists for this company"
  | .companyNotFound => "company not found"
  | .storage reason => "storage error: " ++ reason

/-- A storage error in the terms of configurations. -/
def WebhookConfigError.ofStore (error : StoreError) : WebhookConfigError :=
  .storage error.message

/-- A storage error while creating: a conflict means there is one already. -/
def WebhookConfigError.ofCreation : StoreError → WebhookConfigError
  | .conflict _ => .alreadyExists
  | other => .ofStore other

namespace WebhookConfigs

/-- Issue a configuration with a new key. -/
def create (company : Uuid) : Job WebhookConfigError WebhookConfig := do
  match ← (Desk.findCompany company).mapError .ofStore with
  | none => fail .companyNotFound
  | some _ =>
      match ← (Desk.findConfigOf company).mapError .ofStore with
      | some _ => fail .alreadyExists
      | none =>
          let createdAt ← now
          let id ← freshId
          let key ← freshId
          let config : WebhookConfig :=
            { id, companyId := company, apiKey := key.text, enabled := true, createdAt,
              updatedAt := createdAt }
          (Desk.createConfig config).mapError .ofCreation

/-- The configuration of a company. -/
def get (company : Uuid) : Job WebhookConfigError WebhookConfig := do
  let found ← (Desk.findConfigOf company).mapError .ofStore
  orFail .notFound found

/-- Replace the key. -/
def regenerate (company : Uuid) : Job WebhookConfigError WebhookConfig := do
  let config ← get company
  let key ← freshId
  let time ← now
  (Desk.updateConfig { config with apiKey := key.text, updatedAt := time }).mapError .ofStore

/-- Switch the configuration on or off. -/
def setEnabled (company : Uuid) (enabled : Bool) : Job WebhookConfigError WebhookConfig := do
  let config ← get company
  let time ← now
  (Desk.updateConfig { config with enabled, updatedAt := time }).mapError .ofStore

/-- Remove the configuration of a company. -/
def delete (company : Uuid) : Job WebhookConfigError Unit := do
  let found ← (Desk.deleteConfigOf company).mapError .ofStore
  if found then pure () else fail .notFound

/-- The configuration with a key, switched on or not. -/
def resolve (apiKey : String) : Job WebhookConfigError (Option WebhookConfig) :=
  (Desk.findConfigByKey apiKey).mapError .ofStore

end WebhookConfigs

end Caretaker
