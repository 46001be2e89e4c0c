import Caretaker.Decimal.Shortest

/-!
# JSON numbers

An integer that fits 64 bits stays an integer; every other number is a double.
A decimal literal is read in two steps.  Its digits form a significand as long as
that fits 64 bits, later digits only move the exponent; then one multiplication
or division by a power of ten gives the double.  A literal beyond the largest
double has no value.
-/

namespace Caretaker.Json

open Caretaker.Text Caretaker.Decimal

/-- A JSON number. -/
inductive Number where
  /-- An integer from `-2 ^ 63` to `2 ^ 64 - 1`. -/
  | int (value : Int)
  /-- A double. -/
  | float (value : Float)

/-- The double nearest to a JSON number. -/
def Number.toFloat : Number → Float
  | .int (.ofNat n) => n.toUInt64.toFloat
  | .int (.negSucc n) => -((n + 1).toUInt64.toFloat)
  | .float x => x

/-- The text of a double: positional from `1e-5` up to `1e16`, always with a
point there, and otherwise with a signed exponent. -/
def floatText (x : Float) : String :=
  let sign := if x.toBits.toNat / Nat.pow 2 63 = 1 then "-" else ""
  if x == 0.0 then sign ++ "0.0"
  else
    let d := shortest x
    let digits := decimal d.digits
    let leading : Int := d.exponent + digits.length - 1
    let body :=
      if -5 ≤ leading ∧ leading < 16 then
        if 0 ≤ d.exponent then
          digits ++ List.replicate d.exponent.toNat '0' ++ ['.', '0']
        else if 0 ≤ leading then
          digits.take (leading.toNat + 1) ++ '.' :: digits.drop (leading.toNat + 1)
        else
          ['0', '.'] ++ List.replicate (-leading - 1).toNat '0' ++ digits
      else
        let fraction := digits.drop 1
        let point := if fraction.isEmpty then [] else ['.']
        let expSign := if leading < 0 then '-' else '+'
        digits.take 1 ++ point ++ fraction ++ ['e', expSign] ++ decimal leading.natAbs
    sign ++ String.ofList body

/-- The text of a JSON number. -/
def Number.text : Number → String
  | .int n => ofInt n
  | .float x => floatText x

/-- The parts of a number literal that matches the JSON grammar.  `fraction` is
absent without a point, `exponent` without a mark. -/
structure Literal where
  negative : Bool
  whole : List Nat
  fraction : Option (List Nat)
  exponent : Option (Bool × List Nat)

/-- The largest significand. -/
def maxSignificand : Nat := Nat.pow 2 64 - 1

/-- Digits join the significand while it fits.  The result has the digits that no
longer do. -/
def joinDigits (significand : Nat) : List Nat → Nat × List Nat
  | [] => (significand, [])
  | d :: rest =>
      if significand * 10 + d ≤ maxSignificand then joinDigits (significand * 10 + d) rest
      else (significand, d :: rest)

/-- The exponent of a literal, or `none` beyond 31 bits. -/
def exponentOf (digits : List Nat) : Option Nat :=
  let value := foldDigits 10 0 digits
  if value < Nat.pow 2 31 then some value else none

/-- `significand · 10 ^ exponent` as a double; `none` beyond the largest double.
Exponents below the range of a double are approached in steps of 308. -/
def scale (significand : Float) (exponent : Int) : Nat → Option Float
  | 0 => some significand
  | fuel + 1 =>
      if exponent.natAbs ≤ 308 then
        let power := Float.ofScientific 1 false exponent.natAbs
        if 0 ≤ exponent then
          let product := significand * power
          if product.isInf then none else some product
        else some (significand / power)
      else if significand == 0.0 then some significand
      else if 0 ≤ exponent then none
      else scale (significand / 1e308) (exponent + 308) fuel

/-- The double for a sign, a significand and a power of ten. -/
def doubleOf (negative : Bool) (significand : Nat) (exponent : Int) : Option Float :=
  (scale significand.toUInt64.toFloat exponent 4).map fun x => if negative then -x else x

/-- The number a literal stands for. -/
def Literal.number? (literal : Literal) : Option Number :=
  let (wholePart, wholeLeft) := joinDigits 0 literal.whole
  match literal.fraction, literal.exponent, wholeLeft with
  | none, none, [] =>
      if literal.negative then
        if wholePart = 0 ∨ Nat.pow 2 63 < wholePart then
          some (.float (-(wholePart.toUInt64.toFloat)))
        else some (.int (-(wholePart : Int)))
      else some (.int wholePart)
  | fraction, exponent, left =>
      let (significand, fractionLeft) := joinDigits wholePart (fraction.getD [])
      let joined := (fraction.getD []).length - fractionLeft.length
      let start : Int := (left.length : Int) - joined
      match exponent with
      | none => (doubleOf literal.negative significand start).map .float
      | some (negativeExponent, digits) =>
          match exponentOf digits with
          | some value =>
              let shift : Int := if negativeExponent then -(value : Int) else value
              (doubleOf literal.negative significand (start + shift)).map .float
          | none =>
              if significand = 0 ∨ negativeExponent then
                some (.float (if literal.negative then -0.0 else 0.0))
              else none

end Caretaker.Json
