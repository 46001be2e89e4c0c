import Caretaker.Calendar.Instant
import Caretaker.Json.Wire
import Caretaker.Text.WhiteSpace

/-!
# Reading instants

Two grammars.  The stored form is read strictly: four digits for the year, two for
every other number, a zone of `Z` or a signed offset with a colon, and nothing
else.  The wire form is read leniently: numbers may be shorter, the year may have
a sign and then any number of digits, blanks may stand between most parts, and the
zone may be written `UTC` or without its colon.
-/

namespace Caretaker.Calendar

open Caretaker.Text

/-- Between `least` and `most` digits as a number, and what follows them. -/
def takeNumber (least most : Nat) (cs : List Char) : Option (Nat × List Char) :=
  let digits := (cs.take most).takeWhile isDecimalDigit
  if digits.length < least then none
  else (natOfDecimal? digits).map fun n => (n, cs.drop digits.length)

/-- The text after the expected character. -/
def takeChar (expected : Char) : List Char → Option (List Char)
  | c :: rest => if c = expected then some rest else none
  | [] => none

/-- The text after the mark between date and time. -/
def takeTimeMark : List Char → Option (List Char)
  | c :: rest => if c = 'T' ∨ c = 't' ∨ c = ' ' then some rest else none
  | [] => none

/-- The nanoseconds after an optional point, and what follows.  Digits past the
ninth are dropped. -/
def takeFraction (cs : List Char) : Option (Nat × List Char) :=
  match cs with
  | '.' :: rest =>
      let digits := rest.takeWhile isDecimalDigit
      let kept := digits.take 9
      (natOfDecimal? kept).map fun n => (n * Nat.pow 10 (9 - kept.length), rest.drop digits.length)
  | _ => some (0, cs)

/-- A zone as minutes ahead of Universal Time, and what follows.  `divide` takes
what may stand between hours and minutes. -/
def takeZone (divide : List Char → Option (List Char)) (cs : List Char) :
    Option (Int × List Char) :=
  match cs with
  | [] => none
  | c :: rest =>
      if c = 'Z' ∨ c = 'z' then some (0, rest)
      else if c = '+' ∨ c = '-' ∨ c = '−' then do
        let (hours, rest) ← takeNumber 2 2 rest
        let rest ← divide rest
        let (minutes, rest) ← takeNumber 2 2 rest
        if 60 ≤ minutes ∨ 24 ≤ hours then none
        else
          let total : Int := hours * 60 + minutes
          some (if c = '+' then total else -total, rest)
      else none

/-- The instant behind a stored text. -/
def readStored? (s : String) : Option Instant := do
  let (year, cs) ← takeNumber 4 4 s.toList
  let cs ← takeChar '-' cs
  let (month, cs) ← takeNumber 2 2 cs
  let cs ← takeChar '-' cs
  let (day, cs) ← takeNumber 2 2 cs
  let cs ← takeTimeMark cs
  let (hour, cs) ← takeNumber 2 2 cs
  let cs ← takeChar ':' cs
  let (minute, cs) ← takeNumber 2 2 cs
  let cs ← takeChar ':' cs
  let (second, cs) ← takeNumber 2 2 cs
  let (nano, cs) ← takeFraction cs
  let (offset, cs) ← takeZone (takeChar ':') cs
  if cs.isEmpty then
    let date ← Date.of? year month day
    Instant.ofLocal? date hour minute second nano offset
  else none

/-- A year with an optional sign.  Only a signed year may have more than four
digits. -/
def takeYear (cs : List Char) : Option (Int × List Char) :=
  match cs with
  | '-' :: rest => (takeNumber 1 rest.length rest).map fun (n, left) => (-(n : Int), left)
  | '+' :: rest => (takeNumber 1 rest.length rest).map fun (n, left) => ((n : Int), left)
  | _ => (takeNumber 1 4 cs).map fun (n, left) => ((n : Int), left)

/-- A number of one or two digits after blanks. -/
def takeShort (cs : List Char) : Option (Nat × List Char) :=
  takeNumber 1 2 (trimStart cs)

/-- A zone in the lenient form. -/
def takeLenientZone (cs : List Char) : Option (Int × List Char) :=
  if (cs.take 3).map Char.toUpper = "UTC".toList then some (0, cs.drop 3)
  else takeZone (fun rest => some (rest.dropWhile fun c => c = ':' || isWhiteSpace c)) cs

/-- The instant behind a wire text. -/
def readWire? (s : String) : Option Instant := do
  let (year, cs) ← takeYear (trimStart s.toList)
  let cs ← takeChar '-' (trimStart cs)
  let (month, cs) ← takeShort cs
  let cs ← takeChar '-' (trimStart cs)
  let (day, cs) ← takeShort cs
  let cs ← takeTimeMark cs
  let (hour, cs) ← takeShort cs
  let cs ← takeChar ':' (trimStart cs)
  let (minute, cs) ← takeShort cs
  let cs ← takeChar ':' (trimStart cs)
  let (second, cs) ← takeShort cs
  let (nano, cs) ← takeFraction cs
  let (offset, cs) ← takeLenientZone (trimStart cs)
  if (trimStart cs).isEmpty then
    let date ← Date.of? year month day
    Instant.ofLocal? date hour minute second nano offset
  else none

instance : Json.Wire Instant where
  encode t := .str t.wireText
  read := Json.readText readWire?

end Caretaker.Calendar
