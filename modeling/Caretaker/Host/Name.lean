import Caretaker.Host.Label
import Caretaker.Host.Mapping
import Caretaker.Host.Punycode
import Caretaker.Text.Letters

/-!
# Names of hosts

A host is named by labels with points between them.  A label of letters, numbers and a
few other characters can stand as it is.  Any other name is first brought into ASCII
letters, and then the result must be a name or an address.
-/

namespace Caretaker.Host

open Text

/-- The characters outside letters and numbers that a word may hold. -/
def wordPunctuation : List Char :=
  "!#$%&'*+-/=?^_\x60\x7b|\x7d~".toList

/-! ## Plain names -/

/-- The label starts and ends with a letter or a number and has at most 63 bytes. -/
def isPlainLabel (label : String) : Bool :=
  let cs := label.toList
  label.utf8ByteSize ≤ 63 && cs.head?.any isAlphanumeric && cs.getLast?.any isAlphanumeric &&
    cs.all fun c => isAlphanumeric c || wordPunctuation.contains c

/-- The name has at most 254 bytes, and all its labels are plain. -/
def isPlainName (name : String) : Bool :=
  name.utf8ByteSize ≤ 254 && (name.splitOn ".").all isPlainLabel

/-! ## Addresses -/

/-- A number up to 255 in decimal, without leading zeros. -/
def isByteNumeral (text : String) : Bool :=
  (natOfDecimal? text.toList).any fun value => value < 256 && ofNat value == text

/-- Four bytes with points between them. -/
def isDottedAddress (text : String) : Bool :=
  let bytes := text.splitOn "."
  bytes.length == 4 && bytes.all isByteNumeral

/-- One to four hexadecimal digits. -/
def isGroup (text : String) : Bool :=
  let cs := text.toList
  !cs.isEmpty && cs.length ≤ 4 && cs.all fun c => (hexDigit? c).isSome

/-- How many groups a list of groups stands for.  The last one may be a dotted address,
which stands for two. -/
def groupCount? (mayEndDotted : Bool) : List String → Option Nat
  | [] => some 0
  | [last] =>
      if isGroup last then some 1 else if mayEndDotted && isDottedAddress last then some 2 else none
  | group :: rest => if isGroup group then (groupCount? mayEndDotted rest).map (· + 1) else none

/-- The groups of a text with colons between them; an empty text has none. -/
def groupsOf (text : String) : List String :=
  if text.isEmpty then [] else text.splitOn ":"

/-- Eight groups with colons between them, or fewer with two colons in the place of
those that are left out. -/
def isColonAddress (text : String) : Bool :=
  match text.splitOn "::" with
  | [whole] => groupCount? true (groupsOf whole) == some 8
  | [before, after] =>
      match groupCount? false (groupsOf before), groupCount? true (groupsOf after) with
      | some first, some second => first + second < 8
      | _, _ => false
  | _ => false

/-- The character may stand between the brackets of an address. -/
def isBracketedChar (c : Char) : Bool :=
  let code := c.toNat
  (33 ≤ code && code ≤ 90) || (94 ≤ code && code ≤ 126)

/-- An address in brackets, or one of groups with colons between them. -/
def isAddress (text : String) : Bool :=
  let cs := text.toList
  text.utf8ByteSize ≤ 254 && 2 ≤ cs.length && cs.head? == some '[' && cs.getLast? == some ']' &&
      ((cs.drop 1).dropLast.all isBracketedChar) ||
    isColonAddress text

/-! ## Names in ASCII letters -/

/-- A label as it looks and as it is written. -/
structure LabelForms where
  shown : List Char
  written : List Char

/-- All characters are ASCII. -/
def isAscii (cs : List Char) : Bool :=
  cs.all fun c => c.toNat < 128

/-- What a label starts with if it is written in ASCII letters. -/
def codedMark : List Char :=
  "xn--".toList

/-- The forms of a label of a mapped name.  A coded label must be the code of a label
outside ASCII that is mapped already. -/
def LabelForms.ofLabel? (label : List Char) : Option LabelForms :=
  if codedMark.isPrefixOf label then do
    let code := label.drop codedMark.length
    let shown ← Punycode.decode? code
    if isAscii label && code.getLast? != some '-' && !isAscii shown && map? shown == some shown &&
        compose shown == shown && Label.isWellFormed shown then
      return ⟨shown, label⟩
    else none
  else if Label.isWellFormed label then
    some ⟨label, if isAscii label then label else codedMark ++ Punycode.encode label⟩
  else none

/-- The name in ASCII letters. -/
def asciiName? (name : String) : Option String := do
  let mapped ← map? name.toList
  let labels := (String.ofList (compose mapped)).splitOn "."
  let forms ← labels.mapM fun label => LabelForms.ofLabel? label.toList
  let turns := forms.any fun form => form.shown.any Label.turns
  if turns && !forms.all fun form => Label.isOneWay form.shown then none
  else return ".".intercalate (forms.map fun form => String.ofList form.written)

/-- The text names a host. -/
def isHost (name : String) : Bool :=
  isPlainName name || (asciiName? name).any fun written => isPlainName written || isAddress written

end Caretaker.Host
