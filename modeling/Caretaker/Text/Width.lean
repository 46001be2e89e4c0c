import Caretaker.Text.Table
import Caretaker.Text.WidthTable

/-!
# Display width

How many columns a text takes in a line of fixed-width characters.  Most characters
take none, one or two by themselves.  Some take another number because of what
stands behind them:

* an emoji with a skin tone, a chain of emoji held together by joiners, and the
  flag at the end of such a chain take two columns as a whole;
* a selector behind a character asks for its form as an emoji, with two columns, or
  for its plain form, with one;
* in some scripts two letters merge into one, and in Khmer the second of two
  consonants goes below the first.

A text is therefore measured from its end to its start, and what has been seen last
is kept.
-/

namespace Caretaker.Text

/-- The code point of the character lies between two bounds, both included. -/
def isBetween (low high : Nat) (c : Char) : Bool :=
  low ≤ c.toNat && c.toNat ≤ high

/-- The columns of a character that stands alone. -/
def charWidth (c : Char) : Nat :=
  if c.toNat ≤ 0xA0 then 1
  else if liesIn WidthTable.zeroWidth c.toNat then 0
  else if liesIn WidthTable.doubleWidth c.toNat then 2
  else if c.toNat = 0x17D8 then 3
  else 1

/-- What stands directly behind a character, as far as it can change its width. -/
inductive Behind where
  | nothing
  | emoji
  | skinTone
  /-- The last letter of a flag. -/
  | flagLetter
  | flagLetters
  /-- A joiner and an emoji. -/
  | joined
  /-- The sign of a key, a joiner and an emoji. -/
  | joinedKey
  /-- Letters of flags before a joiner and an emoji: one, an even or an odd number. -/
  | joinedFlagLetter
  | joinedEvenLetters
  | joinedOddLetters
  /-- The end of a flag that is spelled in tags, with so many digits or letters, before
  a joiner and an emoji. -/
  | joinedTagDigits (count : Nat)
  | joinedTagLetters (count : Nat)
  | kiratE
  | kiratAi
  | arabicAlef
  | hebrewLamed (joined : Bool)
  | bugineseYa (joined : Bool)
  | bugineseIYa
  | tifinaghConsonant (joined : Bool)
  | tifinaghJoinedConsonant
  | lisuTone
  | turkicI (joined : Bool)
  | khmerConsonant
  deriving DecidableEq

namespace Behind

/-- A letter that can merge with the one before it. -/
def merges : Behind → Bool
  | .arabicAlef | .hebrewLamed _ | .bugineseYa _ | .bugineseIYa | .tifinaghConsonant _
  | .tifinaghJoinedConsonant | .lisuTone | .turkicI _ | .khmerConsonant => true
  | _ => false

/-- A selector in front does not end a chain of emoji. -/
def continuesChain : Behind → Bool
  | .joined | .joinedKey => true
  | _ => false

/-- The same with a joiner in front. -/
def withJoiner : Behind → Behind
  | .hebrewLamed _ => .hebrewLamed true
  | .bugineseYa _ => .bugineseYa true
  | .tifinaghConsonant _ => .tifinaghConsonant true
  | .turkicI _ => .turkicI true
  | other => other

/-- Arabic letters that merge with a lam before them. -/
def isAlef (c : Char) : Bool :=
  [0x622, 0x623, 0x625, 0x627, 0x675, 0x773, 0x774].contains c.toNat ||
    isBetween 0x671 0x673 c || isBetween 0x870 0x882 c

/-- Khmer letters that go below the letter before them. -/
def isKhmerConsonant (c : Char) : Bool :=
  isBetween 0x1780 0x1782 c || isBetween 0x1784 0x1787 c || isBetween 0x1789 0x178C c ||
    isBetween 0x178E 0x1793 c || isBetween 0x1795 0x1798 c || isBetween 0x179B 0x179D c ||
    [0x17A0, 0x17A2, 0x17A7, 0x17AB, 0x17AC, 0x17AF].contains c.toNat

/-- Tifinagh letters that merge in pairs. -/
def isTifinaghConsonant (c : Char) : Bool :=
  isBetween 0x2D31 0x2D65 c || c.toNat == 0x2D6F

/-- What a character is for the one before it. -/
def ofChar (c : Char) : Behind :=
  if isBetween 0x1F1E6 0x1F1FF c then .flagLetter
  else if isBetween 0x1F3FB 0x1F3FF c then .skinTone
  else if liesIn WidthTable.emoji c.toNat then .emoji
  else if isAlef c then .arabicAlef
  else if isKhmerConsonant c then .khmerConsonant
  else if isTifinaghConsonant c then .tifinaghConsonant false
  else if isBetween 0xA4FC 0xA4FD c then .lisuTone
  else match c.toNat with
    | 0x5DC => .hebrewLamed false
    | 0x1A10 => .bugineseYa false
    | 0x10C03 => .turkicI false
    | 0x16D67 => .kiratE
    | 0x16D68 => .kiratAi
    | _ => .nothing

end Behind

/-- What has been seen of a text that is measured from its end: what stands directly
behind, and the selectors in front of it. -/
structure Seen where
  behind : Behind := .nothing
  /-- The form as an emoji is asked for. -/
  asEmoji : Bool := false
  /-- The plain form is asked for. -/
  asText : Bool := false
  /-- The wide form of a quotation mark is asked for. -/
  asWide : Bool := false
  deriving DecidableEq

namespace Seen

/-- Nothing of influence. -/
def plain : Seen := {}

/-- One thing of influence. -/
def of (behind : Behind) : Seen := { behind }

/-- A selector does not come between two letters that merge. -/
def select (seen : Seen) (mark : Seen → Seen) : Seen :=
  mark (if seen.behind.merges then seen else plain)

/-- Marks that do not come between two letters that merge. -/
def isTransparent (c : Char) : Bool :=
  c.toNat == 0x34F || isBetween 0x17B4 0x17B5 c || isBetween 0x180B 0x180D c ||
    c.toNat == 0x180F || c.toNat == 0x200D || isBetween 0xFE00 0xFE0F c ||
    isBetween 0xE0100 0xE01EF c

/-- The width of a character and what it is for the one before it, when both hang on what
stands behind. -/
def pair? (behind : Behind) (c : Char) : Option (Int × Behind) :=
  let isFlagLetter := isBetween 0x1F1E6 0x1F1FF c
  let isTagDigit := isBetween 0xE0030 0xE0039 c
  let isTagLetter := isBetween 0xE0061 0xE007A c
  match behind with
  | .nothing => none
  | .emoji | .joinedEvenLetters | .joinedOddLetters =>
      if c.toNat == 0x200D then some (0, .joined)
      else if !isFlagLetter then none
      else match behind with
        | .joinedEvenLetters => some (3, .joinedOddLetters)
        | .joinedOddLetters => some (-1, .joinedEvenLetters)
        | _ => none
  | .skinTone =>
      if liesIn WidthTable.skinBases c.toNat then some (0, .emoji)
      else if c.toNat == 0x200D then some (0, .joined) else none
  | .flagLetter => if isFlagLetter then some (1, .flagLetters) else none
  | .flagLetters =>
      if isFlagLetter then some (1, .flagLetters)
      else if c.toNat == 0x200D then some (0, .joined) else none
  | .joined =>
      if c.toNat == 0x20E3 then some (0, .joinedKey)
      else if isFlagLetter then some (1, .joinedFlagLetter)
      else if isBetween 0x1F3FB 0x1F3FF c then some (0, .skinTone)
      else if c.toNat == 0xE007F then some (0, .joinedTagLetters 0)
      else if liesIn WidthTable.emoji c.toNat then some (0, .emoji) else none
  | .joinedKey => none
  | .joinedFlagLetter => if isFlagLetter then some (-1, .joinedEvenLetters) else none
  | .joinedTagDigits count =>
      if isTagDigit && count < 3 then some (0, .joinedTagDigits (count + 1))
      else if c.toNat == 0x1F3F4 && count == 3 then some (0, .emoji) else none
  | .joinedTagLetters count =>
      if isTagLetter && count < 6 then some (0, .joinedTagLetters (count + 1))
      else if isTagDigit && count < 5 then some (0, .joinedTagDigits 1)
      else if c.toNat == 0x1F3F4 && 3 ≤ count then some (0, .emoji) else none
  | .kiratE => match c.toNat with
      | 0x16D63 | 0x16D69 => some (0, .nothing)
      | 0x16D67 => some (0, .kiratAi)
      | 0x16D68 => some (1, .kiratE)
      | _ => none
  | .kiratAi => if c.toNat == 0x16D63 then some (0, .nothing) else none
  | .arabicAlef =>
      if [0x644, 0x76A, 0x8A6, 0x8C7].contains c.toNat || isBetween 0x6B5 0x6B8 c then
        some (0, .nothing)
      else if charWidth c == 0 && !liesIn WidthTable.interrupting c.toNat then
        some (0, .arabicAlef)
      else none
  | .hebrewLamed joined => if joined && c.toNat == 0x5D0 then some (0, .nothing) else none
  | .bugineseYa joined => if joined && c.toNat == 0x1A17 then some (0, .bugineseIYa) else none
  | .bugineseIYa => if c.toNat == 0x1A15 then some (0, .nothing) else none
  | .tifinaghConsonant joined =>
      if c.toNat == 0x2D7F then some (1, .tifinaghJoinedConsonant)
      else if joined && Behind.isTifinaghConsonant c then some (0, .nothing) else none
  | .tifinaghJoinedConsonant =>
      if Behind.isTifinaghConsonant c then some (-1, .nothing) else none
  | .lisuTone => if isBetween 0xA4F8 0xA4FB c then some (0, .nothing) else none
  | .turkicI joined => if joined && c.toNat == 0x10C32 then some (0, .nothing) else none
  | .khmerConsonant => if c.toNat == 0x17D2 then some (-1, .nothing) else none

/-- The width of a character in front of letters and emoji without a selector. -/
def beforeBehind (seen : Seen) (c : Char) : Int × Seen :=
  let isOpen := seen.behind.merges && seen.behind != .arabicAlef
  if isOpen && isTransparent c then
    (0, if c.toNat == 0x200D then { seen with behind := seen.behind.withJoiner } else seen)
  else match pair? seen.behind c with
    | some (columns, behind) => (columns, of behind)
    | none => (charWidth c, of (.ofChar c))

/-- One more character in front: the columns it adds, and what is to be kept. -/
def step (seen : Seen) (c : Char) : Int × Seen :=
  if seen.asEmoji && liesIn WidthTable.emojiBases c.toNat then
    (if seen.behind.continuesChain then 0 else 2, of .emoji)
  else
    let seen := if seen.asEmoji then seen.select fun seen => { seen with asEmoji := false } else seen
    if c.toNat ≤ 0xA0 then (1, plain)
    else if c.toNat == 0xFE0F then
      if seen.behind.continuesChain then (0, { seen with asEmoji := true })
      else (0, seen.select fun seen => { seen with asEmoji := true })
    else if c.toNat == 0xFE0E then (0, seen.select fun seen => { seen with asText := true })
    else if c.toNat == 0xFE01 then (0, seen.select fun seen => { seen with asWide := true })
    else if seen.asText && liesIn WidthTable.textBases c.toNat then (1, plain)
    else if !seen.asText && seen.asWide && [0x2018, 0x2019, 0x201C, 0x201D].contains c.toNat then
      (2, plain)
    else beforeBehind (of seen.behind) c

end Seen

/-- The columns of a text. -/
def width (text : String) : Nat :=
  (text.toList.foldr
    (fun c (total, seen) =>
      let (columns, seen) := seen.step c
      (total + columns, seen))
    ((0 : Int), Seen.plain)).1.toNat

end Caretaker.Text
