import Caretaker.Decimal.Extended
import Caretaker.Store.Cell
import Caretaker.Text.Digits

/-!
# Numerals

A text that is put into a column for numbers becomes a number if it writes one, with
blanks around it allowed.  A text that does not stays a text; in arithmetic it then
counts as the number that its front writes, and as zero if there is none.

The digits of a numeral join a 64-bit significand as long as ten times it fits.
Later digits only move the power of ten, and digits behind the point that come too
late are passed over.
-/

namespace Caretaker

open Text Decimal

/-- What stands behind the digits of a numeral. -/
inductive ExponentPart where
  | absent
  /-- A mark without digits behind it. -/
  | incomplete
  | complete
  deriving DecidableEq

/-- The number at the front of a text. -/
structure Numeral where
  negative : Bool
  /-- The digits before the point. -/
  whole : List Nat
  hasPoint : Bool
  significand : Nat
  /-- The power of ten that goes with the significand. -/
  power : Int
  hasDigits : Bool
  exponent : ExponentPart
  /-- Only blanks follow. -/
  endsText : Bool

namespace Numeral

/-- Blanks around a numeral. -/
def isBlank (c : Char) : Bool :=
  c == ' ' || (9 ≤ c.toNat && c.toNat ≤ 13)

/-- A significand takes further digits below this bound. -/
def roomBelow : Nat := (Nat.pow 2 64 - 10) / 10

/-- Digits before the point join a significand, and the number of those that do
not. -/
def joinWhole (significand : Nat) : List Nat → Nat × Nat
  | [] => (significand, 0)
  | d :: rest =>
      if significand * 10 + d < roomBelow then joinWhole (significand * 10 + d) rest
      else (significand * 10 + d, rest.length)

/-- Digits behind the point join a significand, and the number of those that do. -/
def joinFraction (significand joined : Nat) : List Nat → Nat × Nat
  | [] => (significand, joined)
  | d :: rest =>
      if significand < roomBelow then joinFraction (significand * 10 + d) (joined + 1) rest
      else (significand, joined)

/-- The value of the digits of an exponent.  From 10000 on it no longer counts. -/
def exponentValue (digits : List Nat) : Nat :=
  digits.foldl (fun value d => if value < 10000 then value * 10 + d else 10000) 0

/-- The values of the digits at the front, and the text after them. -/
def digits (cs : List Char) : List Nat × List Char :=
  let front := cs.takeWhile isDecimalDigit
  (front.filterMap decimalDigit?, cs.drop front.length)

/-- A sign at the front, and the text after it. -/
def sign : List Char → Bool × List Char
  | '-' :: rest => (true, rest)
  | '+' :: rest => (false, rest)
  | cs => (false, cs)

/-- The part behind a mark: its value and the text after it. -/
def exponentPart : List Char → ExponentPart × Int × List Char
  | [] => (.absent, 0, [])
  | mark :: rest =>
      if mark == 'e' || mark == 'E' then
        let (down, rest) := sign rest
        let (values, rest) := digits rest
        let value : Int := exponentValue values
        (if values.isEmpty then .incomplete else .complete, if down then -value else value, rest)
      else (.absent, 0, mark :: rest)

/-- The number at the front of a text. -/
def ofText (text : String) : Numeral :=
  let (negative, rest) := sign (text.toList.dropWhile isBlank)
  let (whole, rest) := digits rest
  let (hasPoint, fraction, rest) : Bool × List Nat × List Char := match rest with
    | '.' :: rest => (true, digits rest)
    | rest => (false, [], rest)
  let (significand, moved) := joinWhole 0 whole
  let (significand, joined) := joinFraction significand 0 fraction
  let (exponent, shift, rest) := exponentPart rest
  { negative, whole, hasPoint, significand
    power := shift + moved - joined
    hasDigits := !whole.isEmpty || !fraction.isEmpty
    exponent
    endsText := (rest.dropWhile isBlank).isEmpty }

/-- The text is a numeral and nothing else. -/
def isComplete (n : Numeral) : Bool :=
  n.endsText && n.hasDigits && n.exponent != .incomplete

/-- The numeral is written like an integer. -/
def isWhole (n : Numeral) : Bool :=
  !n.hasPoint && n.exponent == .absent

/-- More than an integer can be read at the front of the text. -/
def isMeasured (n : Numeral) : Bool :=
  n.hasDigits && (n.hasPoint || n.exponent == .complete) &&
    (n.exponent != .incomplete || n.hasPoint)

/-- The integer that the digits before the point write. -/
def integer (n : Numeral) : Int :=
  let value : Int := foldDigits 10 0 n.whole
  if n.negative then -value else value

/-- Zeros move between the significand and the power of ten, so that the power comes
nearer to zero. -/
def balance : Nat → Nat → Int → Nat × Int
  | 0, significand, power => (significand, power)
  | fuel + 1, significand, power =>
      if 0 < power ∧ significand < (Nat.pow 2 64 - 1) / 10 then
        balance fuel (significand * 10) (power - 1)
      else if power < 0 ∧ significand % 10 = 0 then balance fuel (significand / 10) (power + 1)
      else (significand, power)

/-- The number as a double. -/
def toFloat (n : Numeral) : Float :=
  let magnitude :=
    if n.significand = 0 then 0.0
    else
      let (significand, power) := balance 20 n.significand n.power
      (Binary.scaleByTen ⟨significand, 0⟩ power).toFloat
  if n.negative then -magnitude else magnitude

end Numeral

namespace Cell

/-- The integer has 64 bits. -/
def fits (n : Int) : Bool :=
  -9223372036854775808 ≤ n && n < 9223372036854775808

/-- A double in an integer column: an integer if it is one of 64 bits. -/
def ofMeasured (x : Float) : Cell :=
  if x.floor == x && x.abs < 9223372036854775808.0 then .int x.toInt64.toInt else .real x

/-- An integer as a cell.  Beyond 64 bits it becomes a real. -/
def ofWide (n : Int) : Cell :=
  if fits n then .int n else .real (Float.ofInt n)

/-- The content of an integer column after a text was put into it. -/
def integerOfText (text : String) : Cell :=
  let n := Numeral.ofText text
  if !n.isComplete then .text text
  else if n.isWhole && fits n.integer then .int n.integer
  else ofMeasured n.toFloat

/-- The content of a column of reals after a text was put into it. -/
def realOfText (text : String) : Cell :=
  match integerOfText text with
  | .int n => .real (Float.ofInt n)
  | other => other

/-- The content of an integer column that goes up by one. -/
def successor : Cell → Cell
  | .null => .null
  | .int n => ofWide (n + 1)
  | .real x => ofMeasured (x + 1.0)
  | .text content =>
      let n := Numeral.ofText content
      if !n.isMeasured && fits n.integer then ofWide (n.integer + 1)
      else ofMeasured (n.toFloat + 1.0)

end Cell

end Caretaker
