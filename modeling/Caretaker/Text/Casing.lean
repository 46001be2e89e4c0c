import Caretaker.Text.CaseTable
import Caretaker.Text.Table

/-!
# Upper and lower case

Full case conversion: a letter may become several characters (`ß` becomes `SS`),
and a capital sigma becomes the final form at the end of a word.  Comparison of
severities does not come here; it ignores the case of ASCII letters only.
-/

namespace Caretaker.Text

open CaseTable

/-- Move a code point by the first run that covers it. -/
def moveBy (runs : List Run) (code : Nat) : Option Nat :=
  (runs.find? fun run => run.covers code).map fun run => ((code : Int) + run.offset).toNat

/-- The upper-case form of one character. -/
def upperChar (c : Char) : List Char :=
  if c.toNat < 128 then [c.toUpper]
  else
    match upperSequences.find? fun entry => entry.1 == c.toNat with
    | some entry => entry.2.map Char.ofNat
    | none => [((moveBy upperRuns c.toNat).map Char.ofNat).getD c]

/-- The text in upper case. -/
def upper (s : String) : String :=
  String.ofList (s.toList.flatMap upperChar)

/-- The first character that a search does not skip is a cased letter. -/
def meetsCased (cs : List Char) : Bool :=
  match cs.dropWhile fun c => liesIn ignorableIntervals c.toNat with
  | [] => false
  | c :: _ => liesIn casedIntervals c.toNat

/-- The lower-case form of one character, given the text before it (reversed)
and the text after it. -/
def lowerChar (before : List Char) (c : Char) (after : List Char) : List Char :=
  if c.toNat < 128 then [c.toLower]
  else if c == 'İ' then ['i', '\u0307']
  else if c == 'Σ' then
    if meetsCased before && !meetsCased after then ['ς'] else ['σ']
  else [((moveBy lowerRuns c.toNat).map Char.ofNat).getD c]

/-- The lower-case form of a text that continues `before`. -/
def lowerFrom (before : List Char) : List Char → List Char
  | [] => []
  | c :: rest => lowerChar before c rest ++ lowerFrom (c :: before) rest

/-- The text in lower case. -/
def lower (s : String) : String :=
  String.ofList (lowerFrom [] s.toList)

/-- The two texts agree up to the case of ASCII letters. -/
def eqIgnoringAsciiCase (s t : String) : Bool :=
  s.toList.map Char.toLower == t.toList.map Char.toLower

end Caretaker.Text
