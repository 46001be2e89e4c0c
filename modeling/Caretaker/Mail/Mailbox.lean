import Caretaker.Host.Name
import Caretaker.Text.WhiteSpace

/-!
# Mailboxes

A mailbox is an address, perhaps after a name: `Ops <ops@example.org>`.  The part
before the sign is words divided by points, or a quoted text; the part behind it
names a host.  Both may have blanks in front, and a name may have blanks between its
words.  Letters outside ASCII may stand wherever an ASCII letter may.
-/

namespace Caretaker

open Text

/-- An address, with the name it is given under. -/
structure Mailbox where
  name : Option String
  user : String
  domain : String
  deriving DecidableEq

namespace Mailbox

/-- Characters of words. -/
def isWordChar (c : Char) : Bool :=
  c.isAlphanum || Host.wordPunctuation.contains c || 128 ≤ c.toNat

/-- Blanks inside a line. -/
def isInlineBlank (c : Char) : Bool :=
  c == ' ' || c == '\t'

/-- Controls that are neither blanks nor line ends. -/
def isPlainControl (c : Char) : Bool :=
  let code := c.toNat
  (1 ≤ code && code ≤ 8) || code == 11 || code == 12 || (14 ≤ code && code ≤ 31) || code == 127

/-- Characters that stand for themselves between quotes. -/
def isQuotedChar (c : Char) : Bool :=
  let code := c.toNat
  code == 33 || (35 ≤ code && code ≤ 91) || (93 ≤ code && code ≤ 126) || isPlainControl c ||
    128 ≤ code

/-- Characters that may follow a backslash between quotes. -/
def isEscapable (c : Char) : Bool :=
  let code := c.toNat
  1 ≤ code && code ≤ 127 && code != 10 && code != 13

/-- The longest text of words divided by single points at the start of `cs`. -/
def dottedRun : List Char → List Char
  | [] => []
  | c :: rest =>
      if isWordChar c || (c == '.' && rest.head?.any isWordChar) then c :: dottedRun rest else []

/-- Words divided by points, after blanks that do not count, and the text after them. -/
def dotted? (cs : List Char) : Option (List Char × List Char) :=
  let words := cs.dropWhile isInlineBlank
  if words.head?.any isWordChar then
    let run := dottedRun words
    some (run, words.drop run.length)
  else none

/-- The text up to a closing quote, and what follows the quote.  Of several blanks
only the first counts, and none before the closing quote.  `blank` is a blank that
has been seen. -/
def quotedBody (blank : Option Char) : List Char → Option (List Char × List Char)
  | [] => none
  | '"' :: rest => some ([], rest)
  | '\\' :: c :: rest =>
      if isEscapable c then
        (quotedBody none rest).map fun (text, after) => (blank.toList ++ c :: text, after)
      else none
  | c :: rest =>
      if isQuotedChar c then
        (quotedBody none rest).map fun (text, after) => (blank.toList ++ c :: text, after)
      else if isInlineBlank c then quotedBody (blank <|> some c) rest
      else none

/-- A quoted text, and the text after it. -/
def quoted? : List Char → Option (List Char × List Char)
  | '"' :: rest => quotedBody none rest
  | _ => none

/-- A plain word after blanks, of which the first counts. -/
def plainWord? (cs : List Char) : Option (List Char × List Char) :=
  let blanks := cs.takeWhile isInlineBlank
  let after := cs.drop blanks.length
  let word := after.takeWhile isWordChar
  if word.isEmpty then none else some (blanks.take 1 ++ word, after.drop word.length)

/-- A quoted or plain word of a name. -/
def word? (cs : List Char) : Option (List Char × List Char) :=
  quoted? cs <|> plainWord? cs

/-- Further words, points and blanks of a name.  `fuel` bounds their number. -/
def moreWords : Nat → List Char → List Char × List Char
  | 0, cs => ([], cs)
  | fuel + 1, cs =>
      match word? cs with
      | some (word, rest) =>
          let (text, after) := moreWords fuel rest
          (word ++ text, after)
      | none =>
          match cs with
          | c :: rest =>
              if c == '.' || isInlineBlank c then
                let (text, after) := moreWords fuel rest
                (c :: text, after)
              else ([], cs)
          | [] => ([], [])

/-- A name, and the text after it. -/
def name? (cs : List Char) : Option (List Char × List Char) :=
  (word? cs).map fun (word, rest) =>
    let (text, after) := moreWords rest.length rest
    (word ++ text, after)

/-- The two parts of an address, and the text after it. -/
def address? (cs : List Char) : Option ((List Char × List Char) × List Char) := do
  let (user, rest) ← dotted? cs <|> quoted? cs
  match rest with
  | '@' :: rest =>
      let (domain, after) ← dotted? rest
      return ((user, domain), after)
  | _ => none

/-- An address in angle brackets, after blanks. -/
def angled? (cs : List Char) : Option ((List Char × List Char) × List Char) := do
  match cs.dropWhile isInlineBlank with
  | '<' :: rest =>
      let (parts, after) ← address? rest
      match after with
      | '>' :: after => return (parts, after)
      | _ => none
  | _ => none

/-- A mailbox with a name or at least with angle brackets. -/
def named? (cs : List Char) : Option (Mailbox × List Char) :=
  let (name, rest) := match name? cs with
    | some (name, rest) => (some (String.ofList name), rest)
    | none => (none, cs)
  (angled? rest).map fun ((user, domain), after) =>
    (⟨name, String.ofList user, String.ofList domain⟩, after)

/-- A mailbox that is only an address. -/
def bare? (cs : List Char) : Option (Mailbox × List Char) :=
  (address? cs).map fun ((user, domain), after) =>
    (⟨none, String.ofList user, String.ofList domain⟩, after)

/-- Visible ASCII characters. -/
def isVisible (c : Char) : Bool :=
  33 ≤ c.toNat && c.toNat ≤ 126

/-- The inside of a quoted user name is well-formed. -/
def isQuotedUser : List Char → Bool
  | [] => true
  | '\\' :: c :: rest => isVisible c && isQuotedUser rest
  | c :: rest =>
      c != '\\' && c != '"' && (isInlineBlank c || isVisible c || 128 ≤ c.toNat) && isQuotedUser rest

/-- The text is words divided by points. -/
def isDotted (text : String) : Bool :=
  (text.splitOn ".").all fun part => !part.isEmpty && part.toList.all isWordChar

/-- The user of an address: at most 64 bytes. -/
def isUser (user : String) : Bool :=
  let cs := user.toList
  !user.isEmpty && user.utf8ByteSize ≤ 64 &&
    if cs.head? = some '"' ∧ cs.getLast? = some '"' then
      decide (2 < cs.length) && isQuotedUser ((cs.drop 1).take (cs.length - 2))
    else isDotted user

/-- The mailbox that a text names. -/
def parse? (text : String) : Option Mailbox := do
  let cs := text.toList.dropWhile isWhiteSpace
  let (mailbox, rest) ← named? cs <|> bare? cs
  if (rest.dropWhile isWhiteSpace).isEmpty && isUser mailbox.user && Host.isHost mailbox.domain then
    return mailbox
  else none

end Mailbox

end Caretaker
