import Caretaker.Toml.Scalar

/-!
# Documents of a settings file

A document is a list of lines: settings, and headers that say which table the
settings after them belong to.  No setting may be given twice, and no table may be
opened twice, neither by headers nor by names with points in them.
-/

namespace Caretaker.Toml

/-! ## Tables under construction -/

/-- How a table came about. -/
inductive Origin where
  /-- By a header of its own. -/
  | header
  /-- On the way to the table of a header. -/
  | passage
  /-- By a name with points in it. -/
  | dotted
  deriving DecidableEq

/-- A table entry under construction.  The tables of a series stand newest first. -/
inductive Node where
  | leaf (value : Value)
  | table (origin : Origin) (children : List (String × Node))
  | series (tables : List (List (String × Node)))

/-- The entries of a table under construction. -/
abbrev Children := List (String × Node)

namespace Children

/-- Put a node in the place of the one that has its name. -/
def replace (name : String) (node : Node) (children : Children) : Children :=
  children.map fun child => if child.1 == name then (name, node) else child

/-- Change the table at the end of a path, opening the tables on the way. -/
def along (path : List String) (change : Children → Option Children) (children : Children) :
    Option Children :=
  match path with
  | [] => change children
  | name :: path =>
      match children.lookup name with
      | none => (along path change []).map fun below =>
          children ++ [(name, .table .passage below)]
      | some (.table origin below) => (along path change below).map fun below =>
          replace name (.table origin below) children
      | some (.series (newest :: older)) => (along path change newest).map fun newest =>
          replace name (.series (newest :: older)) children
      | some (.series []) | some (.leaf _) => none

/-- Set a value under a name with points: `path` has the names before the last.  The
table that gets the value has to come from such a name itself. -/
def set (path : List String) (key : String) (value : Value) (children : Children) :
    Option Children :=
  match path with
  | [] => if (children.lookup key).isSome then none else some (children ++ [(key, .leaf value)])
  | name :: path =>
      match children.lookup name with
      | none => (set path key value []).map fun below =>
          children ++ [(name, .table .dotted below)]
      | some (.table .dotted below) => (set path key value below).map fun below =>
          replace name (.table .dotted below) children
      | some (.table .passage below) =>
          if path.isEmpty then none
          else (set path key value below).map fun below =>
            replace name (.table .passage below) children
      | some (.series (newest :: older)) =>
          if path.isEmpty then none
          else (set path key value newest).map fun newest =>
            replace name (.series (newest :: older)) children
      | some (.series []) | some (.table .header _) | some (.leaf _) => none

/-- Open the table of a header. -/
def openTable (key : String) (children : Children) : Option Children :=
  match children.lookup key with
  | none => some (children ++ [(key, .table .header [])])
  | some (.table .passage below) => some (replace key (.table .header below) children)
  | some _ => none

/-- Open the next table of a series. -/
def openSeries (key : String) (children : Children) : Option Children :=
  match children.lookup key with
  | none => some (children ++ [(key, .series [[]])])
  | some (.series tables) => some (replace key (.series ([] :: tables)) children)
  | some _ => none

end Children

mutual

/-- The value of a finished node. -/
def Node.value : Node → Value
  | .leaf value => value
  | .table _ children => .table (childValues children)
  | .series tables => .array (tableValues tables).reverse

/-- The values of the entries of a table. -/
def childValues : List (String × Node) → List (String × Value)
  | [] => []
  | (name, node) :: rest => (name, node.value) :: childValues rest

/-- The values of tables. -/
def tableValues : List (List (String × Node)) → List Value
  | [] => []
  | children :: rest => .table (childValues children) :: tableValues rest

end

/-! ## Names, values and lines -/

/-- Characters of names without quotes. -/
def isNameChar (c : Char) : Bool :=
  c.isAlphanum || c == '_' || c == '-'

/-- One part of a name, with blanks around it. -/
def namePart? (cs : List Char) : Option (String × List Char) :=
  let cs := cs.dropWhile isBlankChar
  let bare := cs.takeWhile isNameChar
  let found := if bare.isEmpty then lineText? cs else some (bare, cs.drop bare.length)
  found.map fun (part, rest) => (String.ofList part, rest.dropWhile isBlankChar)

/-- Names have fewer parts than this, and values are less deep. -/
def deepest : Nat := 80

/-- The parts of a name.  `fuel` bounds their number. -/
def nameParts? : Nat → List Char → Option (List String × List Char)
  | 0, _ => none
  | fuel + 1, cs => do
      let (part, rest) ← namePart? cs
      match rest with
      | '.' :: rest =>
          let (parts, rest) ← nameParts? fuel rest
          return (part :: parts, rest)
      | _ => return ([part], rest)

/-- A name: the parts before the last, and the last. -/
def name? (cs : List Char) : Option ((List String × String) × List Char) := do
  let (parts, rest) ← nameParts? (deepest - 1) cs
  let last ← parts.getLast?
  return ((parts.dropLast, last), rest)

/-- Blanks, line ends and comments between the items of an array. -/
def skipGaps (comment : Bool) : List Char → Option (List Char)
  | [] => some []
  | c :: rest =>
      if comment then
        if c == '\n' then skipGaps false rest
        else if isTextChar c then skipGaps true rest else none
      else if isBlankChar c || c == '\n' then skipGaps false rest
      else if c == '#' then skipGaps true rest
      else some (c :: rest)

/-- The table with the given settings. -/
def inlineTable? (settings : List ((List String × String) × Value)) : Option Value :=
  (settings.foldlM (fun children setting =>
    Children.set setting.1.1 setting.1.2 setting.2 children) []).map fun children =>
      .table (childValues children)

mutual

/-- A value.  `fuel` bounds the work, `depth` is how deep the value is nested. -/
def value? (fuel depth : Nat) (cs : List Char) : Option (Value × List Char) :=
  match fuel with
  | 0 => none
  | fuel + 1 =>
      match cs with
      | '[' :: rest =>
          if depth + 1 < deepest then
            (items? fuel (depth + 1) rest).map fun (items, rest) => (.array items, rest)
          else none
      | '\x7b' :: rest =>
          if depth + 1 < deepest then do
            match rest.dropWhile isBlankChar with
            | '\x7d' :: rest => return (.table [], rest)
            | rest =>
                let (settings, rest) ← settings? fuel (depth + 1) rest
                let table ← inlineTable? settings
                return (table, rest)
          else none
      | 't' :: 'r' :: 'u' :: 'e' :: rest => some (.truth true, rest)
      | 'f' :: 'a' :: 'l' :: 's' :: 'e' :: rest => some (.truth false, rest)
      | '"' :: _ | '\x27' :: _ => (text? cs).map fun (text, rest) => (.text (String.ofList text), rest)
      | _ => moment? cs <|> number? cs

/-- The items of an array up to its closing bracket. -/
def items? (fuel depth : Nat) (cs : List Char) : Option (List Value × List Char) :=
  match fuel with
  | 0 => none
  | fuel + 1 => do
      match ← skipGaps false cs with
      | ']' :: rest => return ([], rest)
      | cs =>
          let (item, rest) ← value? fuel depth cs
          match ← skipGaps false rest with
          | ',' :: rest =>
              let (items, rest) ← items? fuel depth rest
              return (item :: items, rest)
          | ']' :: rest => return ([item], rest)
          | _ => none

/-- The settings of a table on one line up to its closing brace. -/
def settings? (fuel depth : Nat) (cs : List Char) :
    Option (List ((List String × String) × Value) × List Char) :=
  match fuel with
  | 0 => none
  | fuel + 1 => do
      let (name, rest) ← name? cs
      let rest ← after? '=' rest
      let (value, rest) ← value? fuel depth (rest.dropWhile isBlankChar)
      match rest.dropWhile isBlankChar with
      | ',' :: rest =>
          let (settings, rest) ← settings? fuel depth rest
          return ((name, value) :: settings, rest)
      | '\x7d' :: rest => return ([(name, value)], rest)
      | _ => none

end

/-- What follows the end of a line, before which blanks and a comment may stand. -/
def lineEnd? (cs : List Char) : Option (List Char) :=
  let cs := cs.dropWhile isBlankChar
  let cs := if cs.head? = some '#' then cs.dropWhile isTextChar else cs
  match cs with
  | [] => some []
  | '\n' :: rest => some rest
  | _ => none

/-- A line of a document. -/
inductive Line where
  | empty
  | header (parents : List String) (key : String)
  | seriesHeader (parents : List String) (key : String)
  | setting (path : List String) (key : String) (value : Value)

/-- The first line, without its end. -/
def line? (cs : List Char) : Option (Line × List Char) :=
  match cs.dropWhile isBlankChar with
  | '[' :: '[' :: rest => do
      let ((parents, key), rest) ← name? rest
      let rest ← after? ']' rest
      let rest ← after? ']' rest
      return (.seriesHeader parents key, rest)
  | '[' :: rest => do
      let ((parents, key), rest) ← name? rest
      let rest ← after? ']' rest
      return (.header parents key, rest)
  | [] => some (.empty, [])
  | c :: rest =>
      if c == '\n' || c == '#' then some (.empty, c :: rest)
      else do
        let ((path, key), rest) ← name? (c :: rest)
        let rest ← after? '=' rest
        let rest := rest.dropWhile isBlankChar
        let (value, rest) ← value? (rest.length + 1) 0 rest
        return (.setting path key value, rest)

/-- The tables so far, and the path of the last header. -/
structure Progress where
  root : Children
  current : List String

/-- Take one more line into account. -/
def Progress.add (progress : Progress) (line : Line) : Option Progress :=
  match line with
  | .empty => some progress
  | .header parents key => do
      let root ← Children.along parents (Children.openTable key) progress.root
      return { root, current := parents ++ [key] }
  | .seriesHeader parents key => do
      let root ← Children.along parents (Children.openSeries key) progress.root
      return { root, current := parents ++ [key] }
  | .setting path key value => do
      let root ← Children.along progress.current (Children.set path key value) progress.root
      return { progress with root }

/-- Take all lines into account.  `fuel` bounds their number. -/
def readLines : Nat → Progress → List Char → Option Progress
  | _, progress, [] => some progress
  | 0, _, _ :: _ => none
  | fuel + 1, progress, cs => do
      let (line, rest) ← line? cs
      let rest ← lineEnd? rest
      let progress ← progress.add line
      readLines fuel progress rest

/-- Line ends as single newlines. -/
def unifyBreaks : List Char → List Char
  | '\r' :: '\n' :: rest => '\n' :: unifyBreaks rest
  | c :: rest => c :: unifyBreaks rest
  | [] => []

/-- The text without a byte order mark. -/
def dropMark : List Char → List Char
  | '\uFEFF' :: rest => rest
  | cs => cs

/-- The table that a text describes. -/
def parse? (text : String) : Option Value :=
  let cs := unifyBreaks (dropMark text.toList)
  (readLines (cs.length + 1) { root := [], current := [] } cs).map fun progress =>
    .table (childValues progress.root)

end Caretaker.Toml
