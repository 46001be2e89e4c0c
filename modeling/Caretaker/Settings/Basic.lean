import Caretaker.Json.Wire

/-!
# Settings

Where the service listens, how many calls a key may make, and how long a workflow
may take.  Every setting has a default, so any part of the settings may be left
out.
-/

namespace Caretaker

open Json

/-- Where the service listens. -/
structure ServerSettings where
  host : String := "127.0.0.1"
  port : Nat := 8080
  deriving DecidableEq

/-- How many calls a key may make in a window of seconds. -/
structure RateSettings where
  capacity : Nat := 15
  windowSecs : Nat := 60
  deriving DecidableEq

/-- How long a workflow that an alert sets off may take. -/
structure EngineSettings where
  dispatchTimeoutSecs : Nat := 30
  deriving DecidableEq

/-- All settings of the service. -/
structure Settings where
  server : ServerSettings := {}
  rateLimit : RateSettings := {}
  engine : EngineSettings := {}
  deriving DecidableEq

/-- The first number that is no port. -/
def portLimit : Nat := Nat.pow 2 16

/-- The first number that is no capacity. -/
def capacityLimit : Nat := Nat.pow 2 32

/-- The first number that is no count of seconds. -/
def secondsLimit : Nat := Nat.pow 2 64

instance : Wire ServerSettings where
  encode s := .obj [("host", .str s.host), ("port", ofNat s.port)]
  read := Record.read <|
    ServerSettings.mk <$> defaulted "host" Wire.read ({} : ServerSettings).host <*>
    defaulted "port" (readBelow portLimit) ({} : ServerSettings).port

instance : Wire RateSettings where
  encode s := .obj [("capacity", ofNat s.capacity), ("window_secs", ofNat s.windowSecs)]
  read := Record.read <|
    RateSettings.mk <$> defaulted "capacity" (readBelow capacityLimit) ({} : RateSettings).capacity <*>
    defaulted "window_secs" (readBelow secondsLimit) ({} : RateSettings).windowSecs

instance : Wire EngineSettings where
  encode s := .obj [("dispatch_timeout_secs", ofNat s.dispatchTimeoutSecs)]
  read := Record.read <|
    EngineSettings.mk <$> defaulted "dispatch_timeout_secs" (readBelow secondsLimit)
      ({} : EngineSettings).dispatchTimeoutSecs

instance : Wire Settings where
  encode s := .obj [("server", encode s.server), ("rate_limit", encode s.rateLimit),
    ("engine", encode s.engine)]
  read := Record.read <|
    Settings.mk <$> defaulted "server" Wire.read {} <*> defaulted "rate_limit" Wire.read {} <*>
    defaulted "engine" Wire.read {}

end Caretaker
