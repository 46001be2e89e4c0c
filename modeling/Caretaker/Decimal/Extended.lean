import Caretaker.Decimal.Shortest

/-!
# Products in extended precision

A decimal can be read by multiplying powers of ten into its digits one after the
other.  Here every product keeps 64 significant bits, and only the last one is
rounded to a double.  Roundings go to the nearest neighbour, a tie to the even one.
The result can be one step away from the nearest double.
-/

namespace Caretaker.Decimal

/-- The quotient as a natural number, rounded to the nearest, a tie to the even
one. -/
def roundDiv (numerator denominator : Nat) : Nat :=
  let below := numerator / denominator
  let twice := 2 * (numerator % denominator)
  if twice < denominator ∨ (twice = denominator ∧ below % 2 = 0) then below else below + 1

namespace Binary

/-- The value with at most `bits` significant bits. -/
def keep (bits : Nat) (b : Binary) : Binary :=
  let extra := b.significand.log2 + 1 - bits
  ⟨roundDiv b.significand (Nat.pow 2 extra), b.exponent + extra⟩

/-- The product with 64 significant bits. -/
def times (a b : Binary) : Binary :=
  keep 64 ⟨a.significand * b.significand, a.exponent + b.exponent⟩

/-- A power of ten with 64 significant bits. -/
def powerOfTen (exponent : Int) : Binary :=
  let power := Nat.pow 10 exponent.natAbs
  if 0 ≤ exponent then keep 64 ⟨power, 0⟩
  else
    let shift := power.log2 + 64
    ⟨roundDiv (Nat.pow 2 shift) power, -(shift : Int)⟩

/-- The product with a power of ten, taken in steps of a hundred, of ten and of one
in its exponent. -/
def scaleByTen (b : Binary) (exponent : Int) : Binary :=
  let count := exponent.natAbs
  let step (size : Nat) : Binary := powerOfTen (if 0 ≤ exponent then size else -(size : Int))
  let factors :=
    List.replicate (count / 100) (step 100) ++ List.replicate (count % 100 / 10) (step 10) ++
      List.replicate (count % 10) (step 1)
  factors.foldl times b

/-- The value is larger than every finite double. -/
def isHuge (b : Binary) : Bool :=
  (Nat.pow 2 53 - 1) * Nat.pow 2 (971 - b.exponent).toNat <
    b.significand * Nat.pow 2 (b.exponent - 971).toNat

/-- The nearest double. -/
def toFloat (b : Binary) : Float :=
  let exponent := max (b.exponent + b.significand.log2 - 52) (-1074)
  let shift := exponent - b.exponent
  let rounded := roundDiv (b.significand * Nat.pow 2 (-shift).toNat) (Nat.pow 2 shift.toNat)
  if b.isHuge then Float.ofBits (2047 * 4503599627370496)
  else if rounded < Nat.pow 2 52 then Float.ofBits rounded.toUInt64
  else Float.ofBits ((exponent + 1075).toNat * Nat.pow 2 52 + (rounded - Nat.pow 2 52)).toUInt64

end Binary

end Caretaker.Decimal
