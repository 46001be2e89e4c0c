import Caretaker.Calendar.Reading
import Caretaker.Uuid
import Caretaker.Vocabulary

/-!
# Companies and their users

A company is a tenant: every workflow, credential and maintenance object belongs
to one.  Of a company's users the service needs only whom to write to when an
alert could not be handled.
-/

namespace Caretaker

open Json Calendar

/-- A tenant. -/
structure Company where
  id : Uuid
  name : String
  createdAt : Instant
  deriving DecidableEq

/-- What a user may do. -/
inductive Role where
  | admin
  | limitedAdmin
  | technician
  | limitedTechnician
  | viewOnly
  | requester
  deriving DecidableEq

instance : Vocabulary Role where
  noun := "role"
  all := [.admin, .limitedAdmin, .technician, .limitedTechnician, .viewOnly, .requester]
  word
    | .admin => "ADMIN"
    | .limitedAdmin => "LIMITED_ADMIN"
    | .technician => "TECHNICIAN"
    | .limitedTechnician => "LIMITED_TECHNICIAN"
    | .viewOnly => "VIEW_ONLY"
    | .requester => "REQUESTER"

/-- A member of a company. -/
structure User where
  id : Uuid
  companyId : Uuid
  email : String
  role : Role
  deriving DecidableEq

/-- The user administers the company. -/
def User.isAdmin (user : User) : Bool :=
  user.role = .admin

instance : Wire Company where
  encode company := record
    [put "id" company.id, put "name" company.name, put "created_at" company.createdAt]
  read := Record.read <|
    Company.mk <$> required "id" <*> required "name" <*> required "created_at"

instance : Wire User where
  encode user := record
    [put "id" user.id, put "company_id" user.companyId, put "email" user.email,
      put "role" user.role]
  read := Record.read <|
    User.mk <$> required "id" <*> required "company_id" <*> required "email" <*> required "role"

end Caretaker
