import Caretaker.Calendar.Epoch
import Caretaker.Cli.Run
import Caretaker.Desk.Source
import Caretaker.Settings.Environment
import Caretaker.Settings.File
import Caretaker.Store.Snapshot
import Std.Time.DateTime.Timestamp

/-!
# The command line

Reads the command line, the settings and the store, runs the errand, and writes the
store back.  The store lies as a snapshot in the directory for data.
-/

namespace Caretaker.Cli

open Calendar

/-- The content of a file that can be read. -/
def content? (path : String) : IO (Option (List UInt8)) := do
  try
    return some (← IO.FS.readBinFile path).toList
  catch _ =>
    return none

/-- The variables that matter. -/
def environment : IO Environment := do
  let pairs ← ["MAINTFLOW_DATA_DIR", "HOME"].mapM fun name => do
    return (← IO.getEnv name).map fun value => (name, value)
  return { assigned := pairs.filterMap id, accountHome := none }

/-- A source for this run. -/
def source : IO Source := do
  let seed ← IO.getRandomBytes 32
  let reading ← Std.Time.Timestamp.now
  let nanos := reading.toNanosecondsSinceUnixEpoch.val.toNat
  return .ofSeed seed.toList ((Instant.ofEpochNanos? nanos).getD default)

/-- Run an errand on the store in the directory for data. -/
def runErrand (errand : Errand) (json : Bool) : IO UInt32 := do
  let directory := dataDirectory (← environment)
  IO.FS.createDirAll directory
  let settings := Settings.ofFile (← content? (inDirectory directory "config.toml"))
  let snapshot := inDirectory directory "maintflow.json"
  let store := ((← content? snapshot).bind Store.ofSnapshot?).getD .empty
  let file ← match errand.file? with
    | some path => content? path
    | none => pure none
  let around : Surroundings := { server := settings.server, file := fun _ => file, json }
  let (outcome, desk) :=
    (errand.run around).run (.ofStore store settings.rateLimit (← source))
  IO.FS.writeFile snapshot desk.store.snapshot
  match outcome with
  | .done text => do
      IO.print text
      return 0
  | .failed error => do
      IO.eprintln ("Error: " ++ error.message)
      return 1
  | .stalled => return 1

/-- Run the program with the words of a command line. -/
def run (line : List String) : IO UInt32 := do
  match parse line with
  | .error usage => do
      match usage.kind with
      | .version => IO.print (versionText usage)
      | kind => IO.eprintln kind.message
      return usage.exitCode.toUInt32
  | .ok invocation => match invocation.command with
      | .errand errand => runErrand errand invocation.json
      | command => do
          IO.eprintln ("Error: '" ++ command.words ++ "' is not available here")
          return 1

end Caretaker.Cli

/-- Run the command line. -/
def main (line : List String) : IO UInt32 :=
  Caretaker.Cli.run line
