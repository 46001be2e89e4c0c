/-!
# Folders

The folder in which a command runs, as far as paths lead into it.  A path may go
through the folder itself any number of times, written as a point; doubled slashes
count once.  The null device is an empty file and lies outside of every folder.
-/

namespace Caretaker.Cli

/-- Files by their names, which have no slash in them. -/
structure Folder where
  files : List (String × List UInt8)

/-- The path leads nowhere by this step. -/
def isIdle (step : String) : Bool :=
  step.isEmpty || step == "."

/-- The steps of a path lead to the null device. -/
def isNullDevice : List String → Bool
  | "" :: steps =>
      steps.filter (fun step => !isIdle step) == ["dev", "null"] && !steps.getLast?.any isIdle
  | _ => false

/-- The steps before the last one of a path do not leave the folder. -/
def staysInFolder : List String → Bool
  | [] => true
  | first :: rest => first == "." && rest.all isIdle

/-- The content of the file that a path names. -/
def Folder.content? (folder : Folder) (path : String) : Option (List UInt8) :=
  let steps := path.splitOn "/"
  if isNullDevice steps then some []
  else if staysInFolder steps.dropLast then steps.getLast?.bind fun name => folder.files.lookup name
  else none

end Caretaker.Cli
