import Caretaker.Text.Digits

/-!
# Shortest decimal

The shortest decimal that reads back as a given double, and among the shortest
the nearest one.  A finite double is `significand · 2 ^ exponent`; the reals that
round to it form an interval around it, closed exactly when the significand is
even.  For one digit, two digits and so on, the two neighbours of the value on
that decimal grid are tried in exact arithmetic, and the first grid with a hit
decides.
-/

namespace Caretaker.Decimal

open Caretaker.Text

/-- A positive double: `significand · 2 ^ exponent`. -/
structure Binary where
  significand : Nat
  exponent : Int

/-- The decimal `digits · 10 ^ exponent`. -/
structure Scaled where
  digits : Nat
  exponent : Int
  deriving DecidableEq

/-- The absolute value of a finite double in binary. -/
def Binary.ofFloat (x : Float) : Binary :=
  let bits := x.toBits.toNat
  let fraction : Nat := bits % Nat.pow 2 52
  let biased : Nat := bits / Nat.pow 2 52 % Nat.pow 2 11
  if biased = 0 then ⟨fraction, -1074⟩ else ⟨Nat.pow 2 52 + fraction, (biased : Int) - 1075⟩

/-- A value and the ends of its rounding interval over one denominator. -/
structure Interval where
  low : Nat
  value : Nat
  high : Nat
  denominator : Nat
  closed : Bool

/-- The rounding interval of a positive double.  Below a power of two the
doubles stand twice as dense, so the lower end is nearer there. -/
def Binary.interval (b : Binary) : Interval :=
  let unit := Nat.pow 2 (b.exponent - 2).toNat
  let dense := b.significand = Nat.pow 2 52 ∧ b.exponent ≠ -1074
  { low := (4 * b.significand - if dense then 1 else 2) * unit
    value := 4 * b.significand * unit
    high := (4 * b.significand + 2) * unit
    denominator := Nat.pow 2 (2 - b.exponent).toNat
    closed := b.significand % 2 = 0 }

/-- The exponent of the leading decimal digit of `numerator / denominator`. -/
def leadingExponent (numerator denominator : Nat) : Int :=
  if denominator ≤ numerator then
    (decimalWidth (numerator / denominator) : Int) - 1
  else
    let width := decimalWidth (denominator / numerator)
    if denominator ≤ numerator * Nat.pow 10 (width - 1) then 1 - (width : Int) else -(width : Int)

/-- `digits · 10 ^ exponent` lies in the interval. -/
def Interval.contains (range : Interval) (candidate : Scaled) : Bool :=
  let point := candidate.digits * Nat.pow 10 candidate.exponent.toNat * range.denominator
  let scale := Nat.pow 10 (-candidate.exponent).toNat
  if range.closed then range.low * scale ≤ point && point ≤ range.high * scale
  else range.low * scale < point && point < range.high * scale

/-- The neighbour of the value on the grid `10 ^ exponent` that lies in the
interval; of two such neighbours the nearer one, and on a tie the even one. -/
def Interval.gridHit (range : Interval) (exponent : Int) : Option Scaled :=
  let numerator := range.value * Nat.pow 10 (-exponent).toNat
  let denominator := range.denominator * Nat.pow 10 exponent.toNat
  let below := numerator / denominator
  let lower : Scaled := ⟨below, exponent⟩
  let upper : Scaled := ⟨below + 1, exponent⟩
  let twice := 2 * (numerator % denominator)
  match range.contains lower, range.contains upper with
  | true, true =>
      if twice < denominator then some lower
      else if denominator < twice then some upper
      else if below % 2 = 0 then some lower else some upper
  | true, false => some lower
  | false, true => some upper
  | false, false => none

/-- The first hit on the grids of `17 - remaining, …, 17` digits. -/
def Interval.firstHit (range : Interval) (leading : Int) : Nat → Scaled
  | 0 => ⟨range.value / range.denominator, 0⟩
  | remaining + 1 =>
      match range.gridHit (leading - (16 - (remaining : Int))) with
      | some hit => hit
      | none => range.firstHit leading remaining

/-- The decimal without trailing zeros among its digits. -/
def Scaled.trimZeros (fuel : Nat) (d : Scaled) : Scaled :=
  match fuel with
  | 0 => d
  | fuel + 1 =>
      if d.digits ≠ 0 ∧ d.digits % 10 = 0 then
        Scaled.trimZeros fuel ⟨d.digits / 10, d.exponent + 1⟩
      else d

/-- The shortest decimal of a positive finite double. -/
def shortest (x : Float) : Scaled :=
  let range := (Binary.ofFloat x).interval
  (range.firstHit (leadingExponent range.value range.denominator) 17).trimZeros 17

end Caretaker.Decimal
