import Caretaker.Host.Composition
import Caretaker.Host.LabelTable

/-!
# Labels of host names

Three rules for the characters of a label.  It does not start with a mark.  The two
joiners, which show nothing, stand only where they change the form of the letters
around them.  And in a name with text from right to left no label may be shown in a
way that makes another name of it.
-/

namespace Caretaker.Host

open Text

namespace Label

/-- Marks, as intervals. -/
def markIntervals : List (Nat × Nat) :=
  intervalsOf LabelTable.marks

/-- The character is a mark. -/
def isMark (c : Char) : Bool :=
  liesIn markIntervals c.toNat

/-! ## Joiners -/

/-- How a letter joins with its neighbours. -/
inductive Joining where
  | both
  | next
  | previous
  | across
  | never
  deriving DecidableEq

/-- The intervals of each way to join. -/
def joiningIntervals : List (Joining × List (Nat × Nat)) :=
  [(.both, intervalsOf LabelTable.joiningBoth), (.next, intervalsOf LabelTable.joiningNext),
   (.previous, intervalsOf LabelTable.joiningPrevious), (.across, intervalsOf LabelTable.transparent)]

/-- How a character joins with its neighbours. -/
def joining (c : Char) : Joining :=
  match joiningIntervals.find? fun entry => liesIn entry.2 c.toNat with
  | some entry => entry.1
  | none => .never

/-- The first character that letters do not join across. -/
def reach (cs : List Char) : Option Joining :=
  (cs.map joining).find? (· != .across)

/-- A joiner or a separator of joins may stand between two texts, the first of which
is given from its end to its start.  Both may follow a mark that silences a vowel; the
separator may also part two letters that would join. -/
def fits (before : List Char) (c : Char) (after : List Char) : Bool :=
  let afterKiller := before.head?.any fun mark => markClass mark == vowelKillerClass
  if c = '\u200d' then afterKiller
  else if c = '\u200c' then
    afterKiller ||
      ((reach before).any fun way => way == .both || way == .next) &&
        (reach after).any fun way => way == .both || way == .previous
  else true

/-- All joiners of a text that continues `before` stand where they may. -/
def joinersFit (before : List Char) : List Char → Bool
  | [] => true
  | c :: rest => fits before c rest && joinersFit (c :: before) rest

/-! ## Direction -/

/-- The direction of a character. -/
inductive Direction where
  | rightward
  | leftward
  | arabicNumber
  | europeanNumber
  | neutral
  /-- The direction of the character before. -/
  | inherited
  deriving DecidableEq

/-- The intervals of each direction but the first. -/
def directionIntervals : List (Direction × List (Nat × Nat)) :=
  [(.leftward, intervalsOf LabelTable.rightToLeft),
   (.arabicNumber, intervalsOf LabelTable.arabicNumbers),
   (.europeanNumber, intervalsOf LabelTable.europeanNumbers),
   (.neutral, intervalsOf LabelTable.neutral),
   (.inherited, intervalsOf LabelTable.inheriting)]

/-- The direction of a character. -/
def direction (c : Char) : Direction :=
  match directionIntervals.find? fun entry => liesIn entry.2 c.toNat with
  | some entry => entry.1
  | none => .rightward

/-- The character belongs to text from right to left. -/
def turns (c : Char) : Bool :=
  direction c = .leftward || direction c = .arabicNumber

/-- A label in a name with text from right to left.  It starts with a letter, whose
direction is that of the label; it has no letters of the other direction, ends with a
letter or a number, marks aside, and does not mix the two kinds of numbers if it is
written from right to left. -/
def isOneWay (label : List Char) : Bool :=
  let directions := label.map direction
  let last := directions.reverse.find? (· != .inherited)
  match directions with
  | [] => true
  | .rightward :: _ =>
      directions.all (fun way => way != .leftward && way != .arabicNumber) &&
        last.any fun way => way == .rightward || way == .europeanNumber
  | .leftward :: _ =>
      directions.all (· != .rightward) &&
        last.any (fun way => way == .leftward || way == .europeanNumber || way == .arabicNumber) &&
        !(directions.contains .europeanNumber && directions.contains .arabicNumber)
  | _ => false

/-! ## Well-formed labels -/

/-- The label does not start with a mark, and its joiners stand where they may. -/
def isWellFormed (label : List Char) : Bool :=
  !label.head?.any isMark && joinersFit [] label

end Label

end Caretaker.Host
