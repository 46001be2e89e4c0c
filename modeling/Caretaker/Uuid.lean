import Caretaker.Json.Wire
import Caretaker.Text.Digits

/-!
# Identifiers

Every stored object has a 128-bit identifier.  It is written as 32 lower-case
hexadecimal digits in groups of 8, 4, 4, 4 and 12.  Reading also accepts the
digits without hyphens, the hyphenated form in braces, and the hyphenated form
after `urn:uuid:`, with digits and that mark in either case.
-/

namespace Caretaker

open Text

/-- The number of identifiers. -/
def Uuid.count : Nat := Nat.pow 2 128

/-- A 128-bit identifier. -/
structure Uuid where
  value : Nat
  bound : value < Uuid.count
  deriving DecidableEq

namespace Uuid

instance : Inhabited Uuid := ⟨⟨0, by decide⟩⟩

/-- The identifier with this number, which wraps beyond 128 bits. -/
def ofNat (n : Nat) : Uuid :=
  ⟨n % count, Nat.mod_lt _ (by decide)⟩

/-- Hyphens between the groups of 32 digits. -/
def hyphenate (digits : List Char) : List Char :=
  digits.take 8 ++ '-' :: (digits.drop 8).take 4 ++ '-' :: (digits.drop 12).take 4 ++
    '-' :: (digits.drop 16).take 4 ++ '-' :: digits.drop 20

/-- The digits of a hyphenated text whose hyphens stand in their places. -/
def unhyphenate? (cs : List Char) : Option (List Char) :=
  if cs.length = 36 ∧ [8, 13, 18, 23].all fun i => cs[i]? == some '-' then
    some (cs.take 8 ++ (cs.drop 9).take 4 ++ (cs.drop 14).take 4 ++ (cs.drop 19).take 4 ++
      cs.drop 24)
  else none

/-- The canonical text. -/
def text (id : Uuid) : String :=
  String.ofList (hyphenate (fixedDigits 16 32 id.value))

/-- The identifier behind 32 hexadecimal digits. -/
def ofDigits? (cs : List Char) : Option Uuid :=
  if cs.length = 32 then (cs.mapM hexDigit?).map fun digits => ofNat (foldDigits 16 0 digits)
  else none

/-- The identifier behind a text in any of the accepted forms. -/
def parse? (s : String) : Option Uuid :=
  let cs := s.toList
  if cs.length = 32 then ofDigits? cs
  else if cs.length = 36 then (unhyphenate? cs).bind ofDigits?
  else if cs.length = 38 ∧ cs.head? = some '\x7b' ∧ cs.getLast? = some '\x7d' then
    (unhyphenate? ((cs.drop 1).take 36)).bind ofDigits?
  else if cs.length = 45 ∧ (cs.take 9).map Char.toLower = "urn:uuid:".toList then
    (unhyphenate? (cs.drop 9)).bind ofDigits?
  else none

instance : LT Uuid := ⟨fun a b => a.value < b.value⟩

instance (a b : Uuid) : Decidable (a < b) :=
  inferInstanceAs (Decidable (a.value < b.value))

instance : Json.Wire Uuid where
  encode id := .str id.text
  read := Json.readText parse?

end Uuid

end Caretaker
