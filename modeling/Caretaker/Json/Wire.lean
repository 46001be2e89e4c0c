import Caretaker.Json.Document

/-!
# Wire forms

A type with a wire form has a JSON value for each of its members and a reader
that takes documents back.  Records are written as objects and read from objects
in any order of names, or from arrays that list the fields in their declared
order.

Reading fails for one of two reasons, and the first fault in the order of the
text decides: `malformed` is text that is no JSON or cannot be an answer to what
was asked for, `mismatched` is JSON of the wrong type or with a wrong value.
-/

namespace Caretaker.Json

/-- Why a document could not be read as a value of the wanted type. -/
inductive Fault where
  | malformed
  | mismatched
  deriving DecidableEq

/-- A reader of documents. -/
abbrev Reader (α : Type) := Doc → Except Fault α

/-- Types with a wire form. -/
class Wire (α : Type) where
  encode : α → Json
  read : Reader α

export Wire (encode)

/-- The value of the wanted type behind a JSON value. -/
def decode? {α : Type} [Wire α] (json : Json) : Option α :=
  (Wire.read json.doc : Except Fault α).toOption

/-- The value of the wanted type behind a JSON text.  Text after the value counts
only once the value itself has been read. -/
def decodeText {α : Type} [Wire α] (bytes : List UInt8) : Except Fault α :=
  let (doc, more) := parseDoc bytes
  match (Wire.read doc : Except Fault α) with
  | .error fault => .error fault
  | .ok value => if more then .error .malformed else .ok value

/-! ## Scalars -/

/-- The fault of a document that is not of the wanted kind. -/
def faultOf : Doc → Fault
  | .flawed _ => .malformed
  | _ => .mismatched

instance : Wire String where
  encode := .str
  read
    | .str s => .ok s
    | other => .error (faultOf other)

instance : Wire Bool where
  encode := .bool
  read
    | .bool b => .ok b
    | other => .error (faultOf other)

instance : Wire Float where
  encode := ofFloat
  read
    | .num n => .ok n.toFloat
    | other => .error (faultOf other)

instance : Wire Json where
  encode := id
  read doc := match doc.json? with
    | some json => .ok json
    | none => .error .malformed

/-- A text that some partial function turns into a value. -/
def readText {α : Type} (parse : String → Option α) : Reader α
  | .str s => match parse s with
      | some value => .ok value
      | none => .error .mismatched
  | other => .error (faultOf other)

/-- A natural number below a limit. -/
def readBelow (limit : Nat) : Reader Nat
  | .num (.int n) => if 0 ≤ n ∧ n < limit then .ok n.toNat else .error .mismatched
  | other => .error (faultOf other)

/-- The fields of an object with arbitrary values. -/
def readFields : Reader (List (String × Json))
  | .obj entries => match Doc.jsonFields? entries with
      | some fields => .ok fields
      | none => .error .malformed
  | other => .error (faultOf other)

/-- Every item of an array, in order. -/
def readItems {α : Type} (read : Reader α) : List Doc → Except Fault (List α)
  | [] => .ok []
  | item :: rest =>
      match read item with
      | .error fault => .error fault
      | .ok value => match readItems read rest with
          | .error fault => .error fault
          | .ok values => .ok (value :: values)

instance {α : Type} [Wire α] : Wire (List α) where
  encode values := .arr (values.map encode)
  read
    | .arr items => readItems Wire.read items
    | other => .error (faultOf other)

/-- `null` for an absent value. -/
def readOption {α : Type} (read : Reader α) : Reader (Option α)
  | .null => .ok none
  | other => match read other with
      | .ok value => .ok (some value)
      | .error fault => .error fault

instance {α : Type} [Wire α] : Wire (Option α) where
  encode
    | some value => encode value
    | none => .null
  read := readOption Wire.read

/-! ## Fixed vocabularies -/

/-- Types whose members have one word each. -/
class Worded (α : Type) where
  all : List α
  word : α → String

export Worded (word)

/-- The member with exactly this word. -/
def ofWord? {α : Type} [Worded α] (s : String) : Option α :=
  (Worded.all : List α).find? fun member => word member == s

/-- A member given by its word, or by an object with the word as its only name and
`null` behind it.  What stands in the place of the name is looked at before anything
after it. -/
def readWord {α : Type} [Worded α] : Reader α
  | .str s => match ofWord? s with
      | some member => .ok member
      | none => .error .mismatched
  | .obj ((none, .flawed .misnamed) :: _) => .error .mismatched
  | .obj ((some name, value) :: rest) =>
      match ofWord? name, value.content with
      | none, _ => .error .mismatched
      | some _, .flawed _ => .error .malformed
      | some member, .null => if rest.isEmpty then .ok member else .error .malformed
      | some _, _ => .error .mismatched
  | _ => .error .malformed

instance (priority := low) {α : Type} [Worded α] : Wire α where
  encode member := .str (word member)
  read := readWord

/-! ## Records -/

/-- The name of a field, and the faults of a document in its place. -/
structure Slot where
  name : String
  check : Doc → Except Fault Unit

/-- The fields that a document gives.  `positional` fields come from an array. -/
structure Given where
  entries : List (String × Doc)
  positional : Bool

/-- A record under construction: its fields in declared order, and how its value
comes from the fields given. -/
structure Record (α : Type) where
  slots : List Slot
  build : Given → Except Fault α

/-- Forget the value that was read. -/
def check {α : Type} (read : Reader α) (doc : Doc) : Except Fault Unit :=
  match read doc with
  | .ok _ => .ok ()
  | .error fault => .error fault

instance : Functor Record where
  map f r := ⟨r.slots, fun given => match r.build given with
    | .ok value => .ok (f value)
    | .error fault => .error fault⟩

instance : Seq Record where
  seq f r := ⟨f.slots ++ (r ()).slots, fun given =>
    match f.build given with
    | .error fault => .error fault
    | .ok function => match (r ()).build given with
        | .ok value => .ok (function value)
        | .error fault => .error fault⟩

/-- A field read by `read`; `absent` stands for a field that is not given. -/
def fieldOf {α : Type} (name : String) (read : Reader α) (absent : Given → Except Fault α) :
    Record α :=
  ⟨[⟨name, check read⟩], fun given => match given.entries.lookup name with
    | some doc => read doc
    | none => absent given⟩

/-- A field that has to be given. -/
def required {α : Type} [Wire α] (name : String) : Record α :=
  fieldOf name Wire.read fun _ => .error .mismatched

/-- A field that may be `null`, and may be missing from an object. -/
def optional {α : Type} [Wire α] (name : String) : Record (Option α) :=
  fieldOf name (readOption Wire.read) fun given =>
    if given.positional then .error .mismatched else .ok none

/-- A field that has a value of its own when it is not given. -/
def defaulted {α : Type} (name : String) (read : Reader α) (value : α) : Record α :=
  fieldOf name read fun _ => .ok value

/-- A field that may be `null` or missing in either form. -/
def omittable {α : Type} [Wire α] (name : String) : Record (Option α) :=
  defaulted name (readOption Wire.read) none

/-- The first fault among the entries of an object.  The names in `seen` have been
given before; a field may not be given again.  An entry with an unknown name only
has to be complete. -/
def checkEntries (slots : List Slot) (seen : List String) :
    List (Option String × Doc) → Except Fault Unit
  | [] => .ok ()
  | (none, _) :: _ => .error .malformed
  | (some name, value) :: rest =>
      match slots.find? fun slot => slot.name == name with
      | some slot =>
          if seen.contains name then .error .mismatched
          else match slot.check value.content with
            | .ok () => checkEntries slots (name :: seen) rest
            | .error fault => .error fault
      | none => if value.isBroken then .error .malformed else checkEntries slots seen rest

/-- The first fault among the items of an array. -/
def checkItems : List Slot → List Doc → Except Fault Unit
  | slot :: slots, item :: items => match slot.check item with
      | .ok () => checkItems slots items
      | .error fault => .error fault
  | _, _ => .ok ()

/-- The entries whose names have a value. -/
def namedEntries (entries : List (Option String × Doc)) : List (String × Doc) :=
  entries.filterMap fun entry => entry.1.map fun name => (name, entry.2)

/-- A record from an object or an array. -/
def Record.read {α : Type} (record : Record α) : Reader α
  | .obj entries =>
      match checkEntries record.slots [] entries with
      | .error fault => .error fault
      | .ok () => record.build ⟨namedEntries entries, false⟩
  | .arr items =>
      match checkItems record.slots items with
      | .error fault => .error fault
      | .ok () =>
          match record.build ⟨(record.slots.map Slot.name).zip items, true⟩ with
          | .error fault => .error fault
          | .ok value =>
              if record.slots.length < items.length then .error .malformed else .ok value
  | other => .error (faultOf other)

/-- A field that is always written. -/
def put {α : Type} [Wire α] (name : String) (value : α) : String × Option Json :=
  (name, some (encode value))

/-- A field that is left out when it is absent. -/
def putSome {α : Type} [Wire α] (name : String) (value : Option α) : String × Option Json :=
  (name, value.map encode)

end Caretaker.Json
