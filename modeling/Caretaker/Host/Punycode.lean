/-!
# Labels in ASCII letters

A label with characters outside ASCII is written as its ASCII characters, a hyphen if
there are any, and a text that tells where the other characters go.  These are put
in by ascending code point, and of equal ones from left to right.  So the places to
put a character form one sequence, ordered by code point and then by place; the text
holds the distances from each insertion to the next.

A distance is written with the least significant digit first, in a base that changes
with the position: a digit below the threshold of its position is the last one.  The
thresholds follow the size of the distances written before.
-/

namespace Caretaker.Host.Punycode

/-! ## Distances -/

/-- A digit below 36: the letters, then the decimal digits. -/
def digitChar (digit : Nat) : Char :=
  if digit < 26 then Char.ofNat (97 + digit) else Char.ofNat (22 + digit)

/-- The value of a digit, letters in either case. -/
def digit? (c : Char) : Option Nat :=
  if 'a' ≤ c ∧ c ≤ 'z' then some (c.toNat - 97)
  else if 'A' ≤ c ∧ c ≤ 'Z' then some (c.toNat - 65)
  else if '0' ≤ c ∧ c ≤ '9' then some (c.toNat - 22)
  else none

/-- The threshold at a position: between 1 and 26. -/
def threshold (bias position : Nat) : Nat :=
  max 1 (min 26 (position - bias))

theorem threshold_pos (bias position : Nat) : 0 < threshold bias position := by
  unfold threshold
  omega

/-- The digits of a distance from the given position on. -/
def numeral (bias position distance : Nat) : List Char :=
  let least := threshold bias position
  if distance < least then [digitChar distance]
  else
    digitChar (least + (distance - least) % (36 - least)) ::
      numeral bias (position + 36) ((distance - least) / (36 - least))
termination_by distance
decreasing_by
  have positive := threshold_pos bias position
  calc (distance - threshold bias position) / (36 - threshold bias position)
      ≤ distance - threshold bias position := Nat.div_le_self _ _
    _ < distance := by omega

/-- The bias that a distance calls for. -/
def settle (distance : Nat) : Nat :=
  if 455 < distance then 36 + settle (distance / 35) else 36 * distance / (distance + 38)
termination_by distance
decreasing_by exact Nat.div_lt_self (by omega) (by omega)

/-- The bias after a distance that made the text so long.  The first distance tells
little about those that follow. -/
def adapt (distance size : Nat) (isFirst : Bool) : Nat :=
  let share := if isFirst then distance / 700 else distance / 2
  settle (share + share / size)

/-- The bias before the first distance. -/
def startBias : Nat := 72

/-! ## Places -/

/-- A code point and a place for it. -/
structure Place where
  code : Nat
  index : Nat
  deriving DecidableEq

namespace Place

/-- The place before all others. -/
def start : Place := ⟨128, 0⟩

/-- How many places lie between two, if a code point has `size` places. -/
def distance (place later : Place) (size : Nat) : Nat :=
  (later.code - place.code) * size + later.index - place.index

/-- The place at a distance. -/
def advance (place : Place) (distance size : Nat) : Place :=
  ⟨place.code + (place.index + distance) / size, (place.index + distance) % size⟩

/-- The place that follows once a character has been put in. -/
def next (place : Place) : Place :=
  ⟨place.code, place.index + 1⟩

end Place

/-- The places of the characters outside ASCII, in the order in which they are put
in.  The index counts the characters further left that are there by then. -/
def places (label : List Char) : List Place :=
  let found := label.zipIdx.filterMap fun (c, index) =>
    if c.toNat < 128 then none
    else some ⟨c.toNat, (label.take index).countP fun other => other.toNat ≤ c.toNat⟩
  found.mergeSort fun place other => place.code ≤ other.code

/-! ## Writing -/

/-- The distances to the given places.  `size` counts the characters that are there. -/
def encodePlaces (bias : Nat) (place : Place) (size : Nat) (isFirst : Bool) :
    List Place → List Char
  | [] => []
  | later :: rest =>
      let distance := place.distance later (size + 1)
      numeral bias 36 distance ++
        encodePlaces (adapt distance (size + 1) isFirst) later.next (size + 1) false rest

/-- A label in ASCII letters, without its mark. -/
def encode (label : List Char) : List Char :=
  let basic := label.filter fun c => c.toNat < 128
  basic ++ (if basic.isEmpty then [] else ['-']) ++
    encodePlaces startBias Place.start basic.length true (places label)

/-! ## Reading -/

/-- A label of which some insertions have been read, and of the next distance the
digits up to a position. -/
structure Reading where
  label : List Char
  place : Place
  bias : Nat
  isFirst : Bool
  position : Nat
  weight : Nat
  distance : Nat

namespace Reading

/-- No insertion has been read. -/
def start (basic : List Char) : Reading :=
  { label := basic, place := Place.start, bias := startBias, isFirst := true, position := 36,
    weight := 1, distance := 0 }

/-- Put a character in at a distance.  The code point must be one. -/
def insert? (reading : Reading) (distance : Nat) : Option Reading :=
  let size := reading.label.length + 1
  let place := reading.place.advance distance size
  if place.code.isValidChar then
    some
      { label := reading.label.insertIdx place.index (Char.ofNat place.code)
        place := place.next
        bias := adapt distance size reading.isFirst
        isFirst := false
        position := 36
        weight := 1
        distance := 0 }
  else none

/-- One more digit. -/
def step? (reading : Reading) (c : Char) : Option Reading := do
  let digit ← digit? c
  let least := threshold reading.bias reading.position
  let distance := reading.distance + digit * reading.weight
  if digit < least then reading.insert? distance
  else
    return { reading with
      position := reading.position + 36
      weight := reading.weight * (36 - least)
      distance }

end Reading

/-- The label that a text writes: ASCII up to the last hyphen, and the insertions. -/
def decode? (text : List Char) : Option (List Char) := do
  let insertions := (text.reverse.takeWhile (· != '-')).reverse
  let basic := (text.take (text.length - insertions.length)).dropLast
  let reading ← insertions.foldlM Reading.step? (Reading.start basic)
  if reading.position = 36 then some reading.label else none

end Caretaker.Host.Punycode
