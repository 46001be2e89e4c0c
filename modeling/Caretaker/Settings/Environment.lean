import Caretaker.Settings.Basic
import Caretaker.Text.Digits

/-!
# The environment

Variables that the service is started with, the home directory of the account that
it runs under, and the directory for its data that follows from them.
-/

namespace Caretaker

/-- Variables by name, and the home directory of the account. -/
structure Environment where
  assigned : List (String × String)
  accountHome : Option String

/-- The value of a variable that is set. -/
def Environment.get? (environment : Environment) (name : String) : Option String :=
  environment.assigned.lookup name

/-- A name inside a directory.  An empty directory is the current one. -/
def inDirectory (directory name : String) : String :=
  if directory.isEmpty || directory.endsWith "/" then directory ++ name
  else directory ++ "/" ++ name

/-- The home directory: the one that is set and not empty, or else the account's. -/
def homeDirectory? (environment : Environment) : Option String :=
  ((environment.get? "HOME").filter fun home => !home.isEmpty) <|> environment.accountHome

/-- The directory for data: the one that is set, or else a hidden one in the home
directory, or else in the current directory. -/
def dataDirectory (environment : Environment) : String :=
  match environment.get? "MAINTFLOW_DATA_DIR", homeDirectory? environment with
  | some directory, _ => directory
  | none, some home => inDirectory home ".maintflow"
  | none, none => ".maintflow"

/-- Where the database lies. -/
def databaseAddress (directory : String) : String :=
  "sqlite://" ++ inDirectory directory "maintflow.db"

end Caretaker
