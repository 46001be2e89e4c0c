import Caretaker.Text.Casing

/-!
# Media types

The part of a `Content-Type` header that the service looks at: is the body JSON?
The type has to be `application`, with `json` as the subtype or as what follows the
last plus sign of it, in any case.  Parameters are allowed and have no influence,
but they have to be well-formed.
-/

namespace Caretaker.Http

open Text

/-- Characters of names and plain values. -/
def isToken (c : Char) : Bool :=
  c.isAlphanum || "!#$%&'*+-.^_\x60|~".toList.contains c

/-- Characters inside quotes.  A backslash is one of them, without further meaning. -/
def isQuotable (c : Char) : Bool :=
  31 < c.toNat && c.toNat < 127

/-- Where a reader of parameters stands. -/
inductive ParameterState where
  /-- Before a name; blanks may follow. -/
  | gap
  | name
  /-- Right behind the equals sign. -/
  | valueStart
  | value
  /-- Right behind the opening quote, where a second quote is content. -/
  | quoteStart
  | quoted
  | afterQuote
  deriving DecidableEq

namespace ParameterState

/-- Read one character. -/
def next (state : ParameterState) (c : Char) : Option ParameterState :=
  match state with
  | .gap => if c = ' ' then some .gap else if isToken c then some .name else none
  | .name => if isToken c then some .name else if c = '=' then some .valueStart else none
  | .valueStart =>
      if c = '"' then some .quoteStart else if isToken c then some .value else none
  | .value => if isToken c then some .value else if c = ';' then some .gap else none
  | .quoteStart => if isQuotable c then some .quoted else none
  | .quoted =>
      if c = '"' then some .afterQuote else if isQuotable c then some .quoted else none
  | .afterQuote => if c = ' ' then some .afterQuote else if c = ';' then some .gap else none

/-- The parameters may end here. -/
def isFinal : ParameterState → Bool
  | .gap | .valueStart | .value | .afterQuote => true
  | .name | .quoteStart | .quoted => false

end ParameterState

/-- The text after a semicolon is a list of parameters. -/
def areParameters (cs : List Char) : Bool :=
  match cs.foldlM ParameterState.next .gap with
  | some state => state.isFinal
  | none => false

/-- A subtype before its last plus sign, and what follows the sign.  A sign in front
is part of the name. -/
def splitSuffix (subtype : List Char) : List Char × Option (List Char) :=
  let suffix := (subtype.reverse.takeWhile fun c => c != '+').reverse
  let name := subtype.take (subtype.length - suffix.length - 1)
  if suffix.length < subtype.length ∧ !name.isEmpty then (name, some suffix) else (subtype, none)

/-- The media type is JSON. -/
def isJsonType (text : String) : Bool :=
  let cs := text.toList.map Char.toLower
  let type := cs.takeWhile isToken
  match cs.drop type.length with
  | '/' :: rest =>
      let subtype := rest.takeWhile isToken
      let (name, suffix) := splitSuffix subtype
      let wellFormed := match rest.drop subtype.length with
        | [] => true
        | ';' :: parameters => areParameters parameters
        | _ => false
      wellFormed && type == "application".toList &&
        (name == "json".toList || suffix == some "json".toList)
  | _ => false

end Caretaker.Http
