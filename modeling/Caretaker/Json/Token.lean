import Caretaker.Json.Basic

/-!
# JSON tokens

Text is cut into tokens by an automaton that takes one byte at a time.  The first
byte that fits no token ends the list with `broken`.  A literal may be well formed
and still have no value: a number beyond the largest double, a string with a lone
surrogate or with bytes that are not UTF-8.  Such a literal is `unreadable`; it
only harms a reader that wants its value.
-/

namespace Caretaker.Json

open Caretaker.Text

/-- A lexical unit of JSON text. -/
inductive Token where
  | openArray
  | closeArray
  | openObject
  | closeObject
  | comma
  | colon
  | null
  | bool (value : Bool)
  | num (value : Number)
  | str (value : String)
  | unreadableNumber
  | unreadableString
  | broken

/-- Where a number literal stands. -/
inductive NumberState where
  | sign
  | zero
  | whole
  | point
  | fraction
  | mark
  | markSign
  | exponent
  deriving DecidableEq

/-- A piece of a quoted text: a byte, or a code unit written as an escape. -/
inductive Piece where
  | byte (value : UInt8)
  | unit (value : Nat)

/-- Where the automaton stands between two bytes. -/
inductive LexState where
  | idle
  | number (state : NumberState) (bytes : List UInt8)
  | word (bytes : List UInt8)
  | quoted (pieces : List Piece)
  | escape (pieces : List Piece)
  | unit (pieces : List Piece) (count value : Nat)
  | stuck

/-- The state after one more byte of a number literal. -/
def NumberState.next (state : NumberState) (b : UInt8) : Option NumberState :=
  let digit := 48 ≤ b && b ≤ 57
  let markChar := b == 101 || b == 69
  match state with
  | .sign => if b == 48 then some .zero else if digit then some .whole else none
  | .zero => if b == 46 then some .point else if markChar then some .mark else none
  | .whole =>
      if digit then some .whole
      else if b == 46 then some .point
      else if markChar then some .mark else none
  | .point => if digit then some .fraction else none
  | .fraction => if digit then some .fraction else if markChar then some .mark else none
  | .mark =>
      if digit then some .exponent else if b == 43 || b == 45 then some .markSign else none
  | .markSign => if digit then some .exponent else none
  | .exponent => if digit then some .exponent else none

/-- The literal may end here.  After a leading zero a further digit is no end. -/
def NumberState.accepts (state : NumberState) (next : Option UInt8) : Bool :=
  match state with
  | .zero => match next with
      | some b => !(48 ≤ b && b ≤ 57)
      | none => true
  | .whole | .fraction | .exponent => true
  | .sign | .point | .mark | .markSign => false

/-- The values of the leading digits of a byte list, and the rest. -/
def splitDigits : List UInt8 → List Nat × List UInt8
  | [] => ([], [])
  | b :: rest =>
      if 48 ≤ b && b ≤ 57 then
        let (digits, left) := splitDigits rest
        ((b.toNat - 48) :: digits, left)
      else ([], b :: rest)

/-- The parts of a complete number literal. -/
def Literal.ofBytes (bytes : List UInt8) : Literal :=
  let (negative, unsigned) := match bytes with
    | 45 :: rest => (true, rest)
    | all => (false, all)
  let (whole, afterWhole) := splitDigits unsigned
  let (fraction, afterFraction) := match afterWhole with
    | 46 :: rest => let (digits, left) := splitDigits rest; (some digits, left)
    | all => (none, all)
  let exponent := match afterFraction with
    | _ :: 45 :: rest => some (true, (splitDigits rest).1)
    | _ :: 43 :: rest => some (false, (splitDigits rest).1)
    | _ :: rest => some (false, (splitDigits rest).1)
    | [] => none
  { negative, whole, fraction, exponent }

/-- The token of a complete number literal. -/
def numberToken (reversed : List UInt8) : Token :=
  match (Literal.ofBytes reversed.reverse).number? with
  | some n => .num n
  | none => .unreadableNumber

/-- The UTF-8 bytes of the pieces of a quoted text; `none` when an escape leaves a
surrogate without its partner. -/
def piecesToBytes? : List Piece → Option (List UInt8)
  | [] => some []
  | .byte b :: rest => (piecesToBytes? rest).map (b :: ·)
  | .unit high :: .unit low :: rest =>
      if 0xD800 ≤ high ∧ high < 0xDC00 then
        if 0xDC00 ≤ low ∧ low < 0xE000 then
          let code := 0x10000 + (high - 0xD800) * 0x400 + (low - 0xDC00)
          (piecesToBytes? rest).map ((String.singleton (Char.ofNat code)).toUTF8.toList ++ ·)
        else none
      else if 0xDC00 ≤ high ∧ high < 0xE000 then none
      else
        (piecesToBytes? (.unit low :: rest)).map
          ((String.singleton (Char.ofNat high)).toUTF8.toList ++ ·)
  | .unit code :: rest =>
      if 0xD800 ≤ code ∧ code < 0xE000 then none
      else
        (piecesToBytes? rest).map ((String.singleton (Char.ofNat code)).toUTF8.toList ++ ·)

/-- The token of a complete quoted text. -/
def stringToken (reversed : List Piece) : Token :=
  match (piecesToBytes? reversed.reverse).bind fun bytes =>
      String.fromUTF8? ⟨bytes.toArray⟩ with
  | some s => .str s
  | none => .unreadableString

/-- The character behind a one-letter escape. -/
def escapedByte? (b : UInt8) : Option UInt8 :=
  if b == 34 || b == 92 || b == 47 then some b
  else if b == 98 then some 8
  else if b == 102 then some 12
  else if b == 110 then some 10
  else if b == 114 then some 13
  else if b == 116 then some 9
  else none

/-- The fixed words of JSON. -/
def words : List (List UInt8 × Token) :=
  [("null".toUTF8.toList, .null), ("true".toUTF8.toList, .bool true),
    ("false".toUTF8.toList, .bool false)]

/-- One more letter of a fixed word. -/
def stepWord (bytes : List UInt8) : LexState × List Token :=
  match words.find? fun entry => entry.1 == bytes.reverse with
  | some entry => (.idle, [entry.2])
  | none =>
      if words.any fun entry => bytes.reverse.isPrefixOf entry.1 then (.word bytes, [])
      else (.stuck, [.broken])

/-- One byte between two tokens. -/
def stepIdle (b : UInt8) : LexState × List Token :=
  if b == 32 || b == 9 || b == 10 || b == 13 then (.idle, [])
  else if b == 91 then (.idle, [.openArray])
  else if b == 93 then (.idle, [.closeArray])
  else if b == 123 then (.idle, [.openObject])
  else if b == 125 then (.idle, [.closeObject])
  else if b == 44 then (.idle, [.comma])
  else if b == 58 then (.idle, [.colon])
  else if b == 34 then (.quoted [], [])
  else if b == 45 then (.number .sign [b], [])
  else if b == 48 then (.number .zero [b], [])
  else if 49 ≤ b && b ≤ 57 then (.number .whole [b], [])
  else stepWord [b]

/-- One byte of the automaton. -/
def LexState.step (state : LexState) (b : UInt8) : LexState × List Token :=
  match state with
  | .idle => stepIdle b
  | .number at_ bytes =>
      match at_.next b with
      | some next => (.number next (b :: bytes), [])
      | none =>
          if at_.accepts (some b) then
            let (next, tokens) := stepIdle b
            (next, numberToken bytes :: tokens)
          else (.stuck, [.broken])
  | .word bytes => stepWord (b :: bytes)
  | .quoted pieces =>
      if b == 34 then (.idle, [stringToken pieces])
      else if b == 92 then (.escape pieces, [])
      else if b < 32 then (.stuck, [.broken])
      else (.quoted (.byte b :: pieces), [])
  | .escape pieces =>
      if b == 117 then (.unit pieces 0 0, [])
      else
        match escapedByte? b with
        | some byte => (.quoted (.byte byte :: pieces), [])
        | none => (.stuck, [.broken])
  | .unit pieces count value =>
      match hexDigit? (Char.ofNat b.toNat) with
      | some d =>
          if count = 3 then (.quoted (.unit (value * 16 + d) :: pieces), [])
          else (.unit pieces (count + 1) (value * 16 + d), [])
      | none => (.stuck, [.broken])
  | .stuck => (.stuck, [])

/-- The tokens still owed when the text ends. -/
def LexState.finish : LexState → List Token
  | .idle | .stuck => []
  | .number state bytes => if state.accepts none then [numberToken bytes] else [.broken]
  | .word _ | .quoted _ | .escape _ | .unit .. => [.broken]

/-- The tokens of the bytes, for an automaton that stands in the given state. -/
def tokensFrom (state : LexState) : List UInt8 → List Token
  | [] => state.finish
  | b :: rest =>
      let (next, tokens) := state.step b
      tokens ++ tokensFrom next rest

/-- The tokens of a text. -/
def tokens (bytes : List UInt8) : List Token :=
  tokensFrom .idle bytes

end Caretaker.Json
