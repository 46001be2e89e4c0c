import Caretaker.Settings.Basic
import Caretaker.Toml.Document

/-!
# The settings file

Settings are read from a file in TOML.  A file that is missing, that is no text, or
that holds a setting of the wrong kind counts as a whole for nothing: all settings
then have their defaults.
-/

namespace Caretaker

open Toml

/-- Where the service listens, from a part of the file. -/
def ServerSettings.ofValue? (value : Value) : Option ServerSettings := do
  let field ← value.record?
  let host ← setting? Value.text? ({} : ServerSettings).host (field 0 "host")
  let port ← setting? (Value.below? portLimit) ({} : ServerSettings).port (field 1 "port")
  return { host, port }

/-- The limit on calls, from a part of the file. -/
def RateSettings.ofValue? (value : Value) : Option RateSettings := do
  let field ← value.record?
  let capacity ← setting? (Value.below? capacityLimit) ({} : RateSettings).capacity
    (field 0 "capacity")
  let windowSecs ← setting? (Value.below? secondsLimit) ({} : RateSettings).windowSecs
    (field 1 "window_secs")
  return { capacity, windowSecs }

/-- The limit on workflows, from a part of the file. -/
def EngineSettings.ofValue? (value : Value) : Option EngineSettings := do
  let field ← value.record?
  let dispatchTimeoutSecs ← setting? (Value.below? secondsLimit)
    ({} : EngineSettings).dispatchTimeoutSecs (field 0 "dispatch_timeout_secs")
  return { dispatchTimeoutSecs }

/-- All settings, from the whole file. -/
def Settings.ofValue? (value : Value) : Option Settings := do
  let field ← value.record?
  let server ← setting? ServerSettings.ofValue? {} (field 0 "server")
  let rateLimit ← setting? RateSettings.ofValue? {} (field 1 "rate_limit")
  let engine ← setting? EngineSettings.ofValue? {} (field 2 "engine")
  return { server, rateLimit, engine }

/-- The settings in the bytes of a file, if there is one. -/
def Settings.ofFile (content : Option (List UInt8)) : Settings :=
  let found := do
    let bytes ← content
    let text ← String.fromUTF8? ⟨bytes.toArray⟩
    let value ← Toml.parse? text
    Settings.ofValue? value
  found.getD {}

end Caretaker
