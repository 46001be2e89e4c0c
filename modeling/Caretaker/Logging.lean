import Caretaker.Text.Casing

/-!
# Logging

The layouts of log lines, and how much is logged when nothing is said about it.
-/

namespace Caretaker

open Text

/-- The layout of log lines. -/
inductive LogFormat where
  | pretty
  | json
  deriving DecidableEq

/-- A text that names no layout, in lower case. -/
structure UnknownLogFormat where
  text : String
  deriving DecidableEq

/-- How an unknown layout is reported. -/
def UnknownLogFormat.message (unknown : UnknownLogFormat) : String :=
  "invalid log format: '" ++ unknown.text ++ "'"

/-- The layout that a text names in any case. -/
def LogFormat.parse (text : String) : Except UnknownLogFormat LogFormat :=
  match lower text with
  | "pretty" | "text" => .ok .pretty
  | "json" => .ok .json
  | other => .error ⟨other⟩

/-- What is logged: errors only when quiet, more the more often it was asked for. -/
def logFilter (verbose : Nat) (quiet serving : Bool) : String :=
  match verbose with
  | 0 => if quiet then "error" else if serving then "info" else "warn"
  | 1 => "info,maintflow=debug"
  | _ => "trace"

end Caretaker
