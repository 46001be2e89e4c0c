import Caretaker.Http.Message
import Caretaker.Uuid

/-!
# Resources

What a path names, and the methods that each resource knows.  The values in a path
are kept as they were sent; whether they are identifiers is asked only once the
method is known to be allowed.

The last part of a path has to be there to be a value, while a part in the middle
may be empty.
-/

namespace Caretaker.Http

/-- What a path names. -/
inductive Resource where
  | health
  | webhook
  | companies
  | company (company : String)
  | admins (company : String)
  | config (company : String)
  | configKey (company : String)
  | configSwitch (company enabled : String)
  | workflows (company : String)
  | planRestriction (company : String)
  | planRelease (company : String)
  | workflow (company id : String)
  | workflowSwitch (company id enabled : String)
  | workOrders (company : String)
  | requests (company : String)
  deriving DecidableEq

namespace Resource

/-- A resource whose last part carries a value. -/
def ending (value : String) (resource : Resource) : Option Resource :=
  if value.isEmpty then none else some resource

/-- What stands under a company. -/
def ofCompanyParts? (company : String) : List String → Option Resource
  | [] => ending company (.company company)
  | ["admins"] => some (.admins company)
  | ["webhook-config"] => some (.config company)
  | ["webhook-config", "regenerate"] => some (.configKey company)
  | ["webhook-config", "enabled", flag] => ending flag (.configSwitch company flag)
  | ["workflows"] => some (.workflows company)
  | ["workflows", "disable"] => some (.planRestriction company)
  | ["workflows", "enable"] => some (.planRelease company)
  | ["workflows", id] => ending id (.workflow company id)
  | ["workflows", id, "enabled", flag] => ending flag (.workflowSwitch company id flag)
  | ["work-orders"] => some (.workOrders company)
  | ["requests"] => some (.requests company)
  | _ => none

/-- The resource that a path names. -/
def ofPath? (path : String) : Option Resource :=
  match segments path with
  | ["health"] => some .health
  | ["webhooks", "grafana"] => some .webhook
  | ["api", "v1", "companies"] => some .companies
  | "api" :: "v1" :: "companies" :: name :: rest => ofCompanyParts? name rest
  | _ => none

end Resource

/-- What can be done with a resource. -/
inductive Verb where
  | get
  | post
  | delete
  deriving DecidableEq

/-- The verb of a method.  Whoever only asks for the head of a reply reads. -/
def Verb.ofMethod? : String → Option Verb
  | "GET" | "HEAD" => some .get
  | "POST" => some .post
  | "DELETE" => some .delete
  | _ => none

/-- The methods of a verb, as a reply lists them. -/
def Verb.listed : Verb → String
  | .get => "GET,HEAD"
  | .post => "POST"
  | .delete => "DELETE"

/-- The verbs of a resource. -/
def Resource.verbs : Resource → List Verb
  | .health | .company _ | .workOrders _ | .requests _ => [.get]
  | .webhook | .companies | .admins _ | .configKey _ | .configSwitch .. | .planRestriction _
  | .planRelease _ | .workflowSwitch .. => [.post]
  | .config _ => [.get, .post, .delete]
  | .workflows _ => [.get, .post]
  | .workflow .. => [.get, .delete]

/-- The methods of a resource, as a reply lists them. -/
def Resource.allow (resource : Resource) : String :=
  ",".intercalate (resource.verbs.map Verb.listed)

/-- The identifier in a part of a path. -/
def idIn? (segment : String) : Option Uuid :=
  (segmentValue? segment).bind Uuid.parse?

/-- The truth value in a part of a path. -/
def flagIn? (segment : String) : Option Bool :=
  match segmentValue? segment with
  | some "true" => some true
  | some "false" => some false
  | _ => none

end Caretaker.Http
