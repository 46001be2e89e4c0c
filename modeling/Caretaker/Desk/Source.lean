import Caretaker.Desk.Basic
import Caretaker.Webhook.Digest

/-!
# Sources

A source for one run of the program.  Identifiers come from a random seed: the
digest of the seed and a running number gives the digits, so that no two of them
are alike and none can be guessed.  The whole run happens at one moment.
-/

namespace Caretaker

open Calendar Text

namespace Uuid

/-- The identifier with the given digits, marked as a random one: version 4 of the
common variant. -/
def random (digits : List Char) : Uuid :=
  let value := foldDigits 16 0 ((digits.take 32).filterMap hexDigit?)
  let low := value % Nat.pow 2 62
  let middle := value / Nat.pow 2 64 % Nat.pow 2 12
  let high := value / Nat.pow 2 80 % Nat.pow 2 48
  ofNat (high * Nat.pow 2 80 + 4 * Nat.pow 2 76 + middle * Nat.pow 2 64 + 2 * Nat.pow 2 62 + low)

end Uuid

/-- The source that draws from a seed and always reads the same time. -/
def Source.ofSeed (seed : List UInt8) (time : Instant) : Source where
  id i := Uuid.random (Digest.sha256 (seed ++ (Text.ofNat i).toUTF8.toList))
  now _ := time
  nanos _ := 0
  drawn := 0

/-- A desk with this store and this source at the start of a run. -/
def Desk.ofStore (store : Store) (rate : RateSettings) (source : Source) : Desk :=
  { store, limiter := .ofSettings rate, outbox := [], source, outages := [] }

end Caretaker
