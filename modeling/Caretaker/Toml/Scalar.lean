import Caretaker.Calendar.Date
import Caretaker.Json.Number
import Caretaker.Toml.Value

/-!
# Scalars of a settings file

Texts in four spellings, numbers, and moments.  Line ends have been reduced to the
newline before, so a carriage return never stands for anything here.

A reader takes a value from the front of the text and returns what is left.
-/

namespace Caretaker.Toml

open Text Calendar

/-- Blanks inside a line. -/
def isBlankChar (c : Char) : Bool :=
  c == ' ' || c == '\t'

/-- Characters of texts and comments. -/
def isTextChar (c : Char) : Bool :=
  c == '\t' || (0x20 ≤ c.toNat && c.toNat != 0x7F)

/-! ## Texts -/

/-- The character with this code, if there is one. -/
def charOf? (code : Nat) : Option Char :=
  if code.isValidChar then some (Char.ofNat code) else none

/-- The character that a letter after a backslash stands for. -/
def escapedChar? : Char → Option Char
  | 'b' => some '\x08'
  | 't' => some '\t'
  | 'n' => some '\n'
  | 'f' => some '\x0c'
  | 'r' => some '\r'
  | '"' => some '"'
  | '\\' => some '\\'
  | _ => none

/-- Where a reader of a text in double quotes stands. -/
inductive QuoteState where
  | plain
  /-- Right behind a backslash. -/
  | mark
  /-- Inside a code with `left` digits to come. -/
  | code (left value : Nat)
  /-- Behind a backslash that joins lines; `broken` once a line has ended. -/
  | join (broken : Bool)

/-- White space at a joint of lines that has already been broken. -/
def QuoteState.skips (state : QuoteState) (c : Char) : Bool :=
  match state with
  | .join true => isBlankChar c || c == '\n'
  | _ => false

/-- The end of a block of lines: three quotes, and up to two more before them that
belong to the text.  `after` follows the first of `count` quotes. -/
def closeBlock (quote : Char) (count : Nat) (after : List Char) : List Char × List Char :=
  let extra := min (count - 3) 2
  (List.replicate extra quote, after.drop (2 + extra))

/-- A character before what is read next. -/
def before (c : Char) (next : Option (List Char × List Char)) : Option (List Char × List Char) :=
  next.map fun (text, after) => (c :: text, after)

/-- The text up to closing double quotes.  A block may run over several lines and is
closed by three of them. -/
def quotedText (block : Bool) (state : QuoteState) :
    List Char → Option (List Char × List Char)
  | [] => none
  | c :: rest =>
      match state with
      | .mark =>
          if c == 'u' then quotedText block (.code 4 0) rest
          else if c == 'U' then quotedText block (.code 8 0) rest
          else match escapedChar? c with
            | some escaped => before escaped (quotedText block .plain rest)
            | none =>
                if block && isBlankChar c then quotedText block (.join false) rest
                else if block && c == '\n' then quotedText block (.join true) rest
                else none
      | .code left value =>
          match hexDigit? c with
          | none => none
          | some digit =>
              if left ≤ 1 then
                match charOf? (value * 16 + digit) with
                | some escaped => before escaped (quotedText block .plain rest)
                | none => none
              else quotedText block (.code (left - 1) (value * 16 + digit)) rest
      | .join false =>
          if isBlankChar c then quotedText block (.join false) rest
          else if c == '\n' then quotedText block (.join true) rest
          else none
      | other =>
          if other.skips c then quotedText block other rest
          else if c == '"' then
            let count := 1 + (rest.takeWhile fun c => c == '"').length
            if !block then some ([], rest)
            else if count < 3 then before c (quotedText block .plain rest)
            else some (closeBlock c count rest)
          else if c == '\\' then quotedText block .mark rest
          else if isTextChar c || (block && c == '\n') then before c (quotedText block .plain rest)
          else none

/-- The text up to closing single quotes, in which nothing is escaped. -/
def literalText (block : Bool) : List Char → Option (List Char × List Char)
  | [] => none
  | c :: rest =>
      if c == '\x27' then
        let count := 1 + (rest.takeWhile fun c => c == '\x27').length
        if !block then some ([], rest)
        else if count < 3 then before c (literalText block rest)
        else some (closeBlock c count rest)
      else if isTextChar c || (block && c == '\n') then before c (literalText block rest)
      else none

/-- A text in quotes on one line. -/
def lineText? : List Char → Option (List Char × List Char)
  | '"' :: rest => quotedText false .plain rest
  | '\x27' :: rest => literalText false rest
  | _ => none

/-- The text after the newline that may follow an opening. -/
def dropBreak : List Char → List Char
  | '\n' :: rest => rest
  | cs => cs

/-- A text in any of the four spellings. -/
def text? : List Char → Option (List Char × List Char)
  | '"' :: '"' :: '"' :: rest => quotedText true .plain (dropBreak rest)
  | '\x27' :: '\x27' :: '\x27' :: rest => literalText true (dropBreak rest)
  | cs => lineText? cs

/-! ## Numbers -/

/-- The value of a digit in a base of at most sixteen. -/
def digitIn? (base : Nat) (c : Char) : Option Nat :=
  (hexDigit? c).filter fun digit => digit < base

/-- Digits, with single underscores between them. -/
def digitRun (base : Nat) : List Char → List Nat × List Char
  | [] => ([], [])
  | c :: rest =>
      match digitIn? base c with
      | some digit =>
          let (digits, after) := digitRun base rest
          (digit :: digits, after)
      | none =>
          if c == '_' && (rest.head?.bind (digitIn? base)).isSome then digitRun base rest
          else ([], c :: rest)

/-- At least one digit. -/
def digits? (base : Nat) (cs : List Char) : Option (List Nat × List Char) :=
  if (cs.head?.bind (digitIn? base)).isSome then some (digitRun base cs) else none

/-- An integer in 64 bits. -/
def integer? (n : Int) : Option Value :=
  if -9223372036854775808 ≤ n ∧ n < 9223372036854775808 then some (.integer n) else none

/-- An integer in a base that its spelling names. -/
def based? (base : Nat) (cs : List Char) : Option (Value × List Char) := do
  let (digits, rest) ← digits? base cs
  let value ← integer? (foldDigits base 0 digits)
  return (value, rest)

/-- A sign, if there is one; true for a minus sign. -/
def splitSign : List Char → Bool × List Char
  | '-' :: rest => (true, rest)
  | '+' :: rest => (false, rest)
  | cs => (false, cs)

/-- The digits after a point, if there is a point. -/
def fraction? : List Char → Option (Option (List Nat) × List Char)
  | '.' :: rest => (digits? 10 rest).map fun (digits, after) => (some digits, after)
  | cs => some (none, cs)

/-- The exponent after its mark, if there is a mark. -/
def exponent? : List Char → Option (Option (Bool × List Nat) × List Char)
  | [] => some (none, [])
  | c :: rest =>
      if c == 'e' || c == 'E' then
        let (negative, rest) := splitSign rest
        (digits? 10 rest).map fun (digits, after) => (some (negative, digits), after)
      else some (none, c :: rest)

/-- The double that a literal stands for.  Only below zero may it run out of range. -/
def realOf? (literal : Json.Literal) : Option Value :=
  match literal.number? with
  | some number => some (.real number.toFloat)
  | none => if literal.negative then some (.real (-1.0 / 0.0)) else none

/-- A decimal number after its sign. -/
def decimal? (negative : Bool) (cs : List Char) : Option (Value × List Char) := do
  let (whole, rest) ← digits? 10 cs
  if 1 < whole.length ∧ whole.head? = some 0 then none
  let (fraction, rest) ← fraction? rest
  let (exponent, rest) ← exponent? rest
  if fraction.isNone ∧ exponent.isNone then
    let magnitude : Int := foldDigits 10 0 whole
    let value ← integer? (if negative then -magnitude else magnitude)
    return (value, rest)
  else
    let value ← realOf? { negative, whole, fraction, exponent }
    return (value, rest)

/-- A number. -/
def number? : List Char → Option (Value × List Char)
  | '0' :: 'x' :: rest => based? 16 rest
  | '0' :: 'o' :: rest => based? 8 rest
  | '0' :: 'b' :: rest => based? 2 rest
  | cs =>
      let (negative, unsigned) := splitSign cs
      match unsigned with
      | 'i' :: 'n' :: 'f' :: rest =>
          some (.real (if negative then -1.0 / 0.0 else 1.0 / 0.0), rest)
      | 'n' :: 'a' :: 'n' :: rest => some (.real (0.0 / 0.0), rest)
      | _ => decimal? negative unsigned

/-! ## Moments -/

/-- A number with exactly `width` digits. -/
def fixed? (width : Nat) (cs : List Char) : Option (Nat × List Char) :=
  let digits := cs.take width
  if digits.length = width then (natOfDecimal? digits).map fun n => (n, cs.drop width) else none

/-- What follows a given character. -/
def after? (c : Char) : List Char → Option (List Char)
  | [] => none
  | d :: rest => if c == d then some rest else none

/-- What follows a date. -/
def date? (cs : List Char) : Option (List Char) := do
  let (year, rest) ← fixed? 4 cs
  let rest ← after? '-' rest
  let (month, rest) ← fixed? 2 rest
  let rest ← after? '-' rest
  let (day, rest) ← fixed? 2 rest
  let _ ← Date.of? year month day
  return rest

/-- What follows hours and minutes. -/
def clock? (cs : List Char) : Option (List Char) := do
  let (hour, rest) ← fixed? 2 cs
  let rest ← after? ':' rest
  let (minute, rest) ← fixed? 2 rest
  if hour < 24 ∧ minute < 60 then return rest else none

/-- What follows the digits after a point of a second, if there are any. -/
def afterFraction (cs : List Char) : List Char :=
  match cs with
  | '.' :: rest =>
      let digits := rest.takeWhile isDecimalDigit
      if digits.isEmpty then cs else rest.drop digits.length
  | _ => cs

/-- What follows a time of day. -/
def time? (cs : List Char) : Option (List Char) := do
  let rest ← clock? cs
  let rest ← after? ':' rest
  let (second, rest) ← fixed? 2 rest
  if second ≤ 60 then return afterFraction rest else none

/-- What follows an offset from Universal Time, if there is one. -/
def afterOffset (cs : List Char) : List Char :=
  match cs with
  | 'Z' :: rest | 'z' :: rest => rest
  | '+' :: rest | '-' :: rest => (clock? rest).getD cs
  | _ => cs

/-- What follows a time that is set off from a date before it, if there is one. -/
def afterTime (cs : List Char) : List Char :=
  match cs with
  | 'T' :: rest | 't' :: rest | ' ' :: rest => ((time? rest).map afterOffset).getD cs
  | _ => cs

/-- A date, a time, or both. -/
def moment? (cs : List Char) : Option (Value × List Char) :=
  match date? cs with
  | some rest => some (.moment, afterTime rest)
  | none => (time? cs).map fun rest => (.moment, rest)

end Caretaker.Toml
