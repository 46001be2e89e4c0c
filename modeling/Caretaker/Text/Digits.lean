/-!
# Digits

Decimal and hexadecimal digits as characters, numbers written with a least or an
exact width, and runs of digits read back.
-/

namespace Caretaker.Text

/-- The character for a digit below sixteen, in lower case. -/
def digitChar (d : Nat) : Char :=
  if d < 10 then Char.ofNat (48 + d) else Char.ofNat (87 + d)

/-- The value of a decimal digit. -/
def decimalDigit? (c : Char) : Option Nat :=
  if '0' ≤ c ∧ c ≤ '9' then some (c.toNat - 48) else none

/-- The value of a hexadecimal digit, in either case. -/
def hexDigit? (c : Char) : Option Nat :=
  if '0' ≤ c ∧ c ≤ '9' then some (c.toNat - 48)
  else if 'a' ≤ c ∧ c ≤ 'f' then some (c.toNat - 87)
  else if 'A' ≤ c ∧ c ≤ 'F' then some (c.toNat - 55)
  else none

/-- The character is a decimal digit. -/
def isDecimalDigit (c : Char) : Bool :=
  (decimalDigit? c).isSome

/-- The lowest `width` digits of `n` in the given base, most significant first. -/
def fixedDigits (base : Nat) : Nat → Nat → List Char
  | 0, _ => []
  | width + 1, n => fixedDigits base width (n / base) ++ [digitChar (n % base)]

/-- The number of decimal digits of `n`; zero has one. -/
def decimalWidth (n : Nat) : Nat :=
  if n < 10 then 1 else decimalWidth (n / 10) + 1

/-- `n` in decimal, without leading zeros. -/
def decimal (n : Nat) : List Char :=
  fixedDigits 10 (decimalWidth n) n

/-- `n` in decimal, with leading zeros up to the given width. -/
def padded (width n : Nat) : List Char :=
  fixedDigits 10 (max width (decimalWidth n)) n

/-- The decimal text of a natural number. -/
def ofNat (n : Nat) : String :=
  String.ofList (decimal n)

/-- The decimal text of an integer, negative numbers with a minus sign. -/
def ofInt : Int → String
  | .ofNat n => ofNat n
  | .negSucc n => "-" ++ ofNat (n + 1)

/-- The value of a run of digits in the given base, continuing from `value`. -/
def foldDigits (base value : Nat) (digits : List Nat) : Nat :=
  digits.foldl (fun total d => total * base + d) value

/-- The value of a text of decimal digits; anything else has none. -/
def natOfDecimal? (cs : List Char) : Option Nat :=
  if cs.isEmpty then none
  else (cs.mapM decimalDigit?).map (foldDigits 10 0)

/-- The bytes that pairs of hexadecimal digits write. -/
def hexBytes? : List Char → Option (List UInt8)
  | [] => some []
  | high :: low :: rest => do
      let high ← hexDigit? high
      let low ← hexDigit? low
      let bytes ← hexBytes? rest
      return (high * 16 + low).toUInt8 :: bytes
  | [_] => none

end Caretaker.Text
