import Caretaker.Json.Token

/-!
# JSON documents

A document is what a text says before anyone asks for values.  It keeps every
entry in its place and marks what has no value, so that a reader can tell which
of two faults comes first:

* `unreadable` is a literal without a value, or nesting deeper than 127;
* `broken` is where the text stops being JSON; nothing follows it;
* `misnamed` is such a place too, where an object starts with a value that is no
  text and cannot be the name of an entry.

An object lists all its entries in the order of the text.  A name that has no value
is `none`.  When a later entry has the same name, the value is `superseded`: it
has to be JSON, and it does not count.
-/

namespace Caretaker.Json

/-- Why a place of a document has no value. -/
inductive Flaw where
  | unreadable
  | broken
  | misnamed
  deriving DecidableEq

/-- JSON text as a tree. -/
inductive Doc where
  | null
  | bool (value : Bool)
  | num (value : Number)
  | str (value : String)
  | arr (items : List Doc)
  | obj (entries : List (Option String × Doc))
  | superseded (value : Doc)
  | flawed (flaw : Flaw)

instance : Inhabited Doc := ⟨.null⟩

/-- What the text says in a place, whether or not it counts. -/
def Doc.content : Doc → Doc
  | .superseded value => value
  | doc => doc

/-- A later entry has the same name. -/
def Doc.isSuperseded : Doc → Bool
  | .superseded _ => true
  | _ => false

/-- The largest number of containers around a value. -/
def maxDepth : Nat := 127

mutual

/-- The text of the document breaks off somewhere inside. -/
def Doc.isBroken : Doc → Bool
  | .flawed flaw => flaw != .unreadable
  | .arr items => Doc.anyBroken items
  | .obj entries => Doc.anyEntryBroken entries
  | .superseded value => value.isBroken
  | .null | .bool _ | .num _ | .str _ => false

/-- One of the items breaks off. -/
def Doc.anyBroken : List Doc → Bool
  | [] => false
  | item :: rest => item.isBroken || Doc.anyBroken rest

/-- One of the entries breaks off. -/
def Doc.anyEntryBroken : List (Option String × Doc) → Bool
  | [] => false
  | (_, value) :: rest => value.isBroken || Doc.anyEntryBroken rest

end

mutual

/-- The value of a document without flaws. -/
def Doc.json? : Doc → Option Json
  | .null => some .null
  | .bool b => some (.bool b)
  | .num n => some (.num n)
  | .str s => some (.str s)
  | .arr items => (Doc.jsonItems? items).map .arr
  | .obj entries => (Doc.jsonFields? entries).map .obj
  | .superseded value => value.json?
  | .flawed _ => none

/-- The values of items without flaws. -/
def Doc.jsonItems? : List Doc → Option (List Json)
  | [] => some []
  | item :: rest =>
      match item.json?, Doc.jsonItems? rest with
      | some value, some values => some (value :: values)
      | _, _ => none

/-- The values of entries without flaws, each name with its last value. -/
def Doc.jsonFields? : List (Option String × Doc) → Option (List (String × Json))
  | [] => some []
  | (name, entry) :: rest =>
      match name, entry.json?, Doc.jsonFields? rest with
      | some name, some value, some values =>
          some (if entry.isSuperseded then values else (name, value) :: values)
      | _, _, _ => none

end

mutual

/-- A JSON value as a document. -/
def doc : Json → Doc
  | .null => .null
  | .bool b => .bool b
  | .num n => .num n
  | .str s => .str s
  | .arr items => .arr (docItems items)
  | .obj fields => .obj (docFields fields)

/-- Items as documents. -/
def docItems : List Json → List Doc
  | [] => []
  | item :: rest => item.doc :: docItems rest

/-- Fields as documents. -/
def docFields : List (String × Json) → List (Option String × Doc)
  | [] => []
  | (name, value) :: rest => (some name, value.doc) :: docFields rest

end

@[simp]
theorem isSuperseded_doc (json : Json) : json.doc.isSuperseded = false := by
  cases json <;> rfl

@[simp]
theorem content_doc (json : Json) : json.doc.content = json.doc := by
  cases json <;> rfl

mutual

/-- A value read from its own document is the value itself. -/
theorem json?_doc : ∀ json : Json, json.doc.json? = some json
  | .null | .bool _ | .num _ | .str _ => rfl
  | .arr items => by simp [doc, Doc.json?, jsonItems?_docItems items]
  | .obj fields => by simp [doc, Doc.json?, jsonFields?_docFields fields]

theorem jsonItems?_docItems : ∀ items : List Json,
    Doc.jsonItems? (docItems items) = some items
  | [] => rfl
  | item :: rest => by
      simp [docItems, Doc.jsonItems?, json?_doc item, jsonItems?_docItems rest]

theorem jsonFields?_docFields : ∀ fields : List (String × Json),
    Doc.jsonFields? (docFields fields) = some fields
  | [] => rfl
  | (name, value) :: rest => by
      simp [docFields, Doc.jsonFields?, json?_doc value, jsonFields?_docFields rest]

end

@[simp]
theorem docItems_eq_map (items : List Json) : docItems items = items.map doc := by
  induction items with
  | nil => rfl
  | cons item rest inductionHypothesis => simp [docItems, inductionHypothesis]

@[simp]
theorem docFields_eq_map (fields : List (String × Json)) :
    docFields fields = fields.map fun field => (some field.1, field.2.doc) := by
  induction fields with
  | nil => rfl
  | cons field rest inductionHypothesis =>
      obtain ⟨name, value⟩ := field
      simp [docFields, inductionHypothesis]

/-! ## From tokens to a document -/

/-- A container that is still open, with its parts in reverse order.  A name that
has no value is `none`. -/
inductive Frame where
  | arr (items : List Doc)
  | obj (entries : List (Option String × Doc)) (name : Option String)

/-- What may come next. -/
inductive Expect where
  | value
  | valueOrClose
  | commaOrClose
  | nameOrClose
  | name
  | colon

/-- The entries in the order of the text, given last first: a value is superseded if a
later entry has the same name. -/
def inOrder (reversed : List (Option String × Doc)) : List (Option String × Doc) :=
  reversed.foldl
    (fun later entry =>
      if entry.1.isSome && later.any fun other => other.1 == entry.1 then
        (entry.1, .superseded entry.2) :: later
      else entry :: later)
    []

/-- An object from its entries, last first. -/
def Doc.ofEntries (reversed : List (Option String × Doc)) : Doc :=
  .obj (inOrder reversed)

/-- The document when the text breaks off inside the open containers. -/
def breakOff : List Frame → Doc → Doc
  | [], inner => inner
  | .arr items :: outer, inner => breakOff outer (.arr (inner :: items).reverse)
  | .obj entries name :: outer, inner => breakOff outer (Doc.ofEntries ((name, inner) :: entries))

/-- A container inside `depth` others, unless that is too deep. -/
def closeAt (depth : Nat) (container : Doc) : Doc :=
  if maxDepth ≤ depth then .flawed .unreadable else container

/-- Put a complete value into the innermost open container. -/
def place : List Frame → Doc → List Frame × Option Doc
  | [], value => ([], some value)
  | .arr items :: outer, value => (.arr (value :: items) :: outer, none)
  | .obj entries name :: outer, value => (.obj ((name, value) :: entries) none :: outer, none)

/-- Close the innermost array or object. -/
def closeFrame : List Frame → List Frame × Option Doc
  | [] => ([], some (.flawed .broken))
  | .arr items :: outer => place outer (closeAt outer.length (.arr items.reverse))
  | .obj entries _ :: outer => place outer (closeAt outer.length (Doc.ofEntries entries))

/-- The value of a token that is complete by itself. -/
def Token.scalar? : Token → Option Doc
  | .null => some .null
  | .bool b => some (.bool b)
  | .num n => some (.num n)
  | .str s => some (.str s)
  | .unreadableNumber | .unreadableString => some (.flawed .unreadable)
  | _ => none

/-- What happens at one token: the open containers and what is expected next, or
the finished document. -/
inductive Progress where
  | open_ (frames : List Frame) (expect : Expect)
  | complete (doc : Doc)
  | broken (doc : Doc)

/-- Continue after a value was put in place. -/
def Progress.ofPlaced : List Frame × Option Doc → Progress
  | (_, some doc) => .complete doc
  | (frames, none) => .open_ frames .commaOrClose

/-- A token where a value may start. -/
def startValue (frames : List Frame) (token : Token) : Progress :=
  match token with
  | .openArray => .open_ (.arr [] :: frames) .valueOrClose
  | .openObject => .open_ (.obj [] none :: frames) .nameOrClose
  | _ =>
      match token.scalar? with
      | some doc => .ofPlaced (place frames doc)
      | none => .broken (breakOff frames (.flawed .broken))

/-- A value starts with this token, and the value is no text. -/
def Token.startsOther : Token → Bool
  | .openArray | .openObject | .null | .bool _ | .num _ => true
  | _ => false

/-- A token where the name of an entry may stand. -/
def startName (frames : List Frame) (token : Token) : Progress :=
  match frames, token with
  | .obj entries _ :: outer, .str name => .open_ (.obj entries (some name) :: outer) .colon
  | .obj entries _ :: outer, .unreadableString => .open_ (.obj entries none :: outer) .colon
  | _, _ =>
      .broken (breakOff frames (.flawed (if token.startsOther then .misnamed else .broken)))

/-- One token. -/
def stepToken (frames : List Frame) (expect : Expect) (token : Token) : Progress :=
  match expect, token with
  | .valueOrClose, .closeArray => .ofPlaced (closeFrame frames)
  | .value, token => startValue frames token
  | .valueOrClose, token => startValue frames token
  | .nameOrClose, .closeObject => .ofPlaced (closeFrame frames)
  | .nameOrClose, token => startName frames token
  | .name, token => startName frames token
  | .colon, .colon => .open_ frames .value
  | .colon, _ => .broken (breakOff frames (.flawed .broken))
  | .commaOrClose, token =>
      match frames, token with
      | .arr _ :: _, .comma => .open_ frames .value
      | .arr _ :: _, .closeArray => .ofPlaced (closeFrame frames)
      | .obj .. :: _, .comma => .open_ frames .name
      | .obj .. :: _, .closeObject => .ofPlaced (closeFrame frames)
      | _, _ => .broken (breakOff frames (.flawed .broken))

/-- The document of the tokens, and whether anything follows it. -/
def build (frames : List Frame) (expect : Expect) : List Token → Doc × Bool
  | [] => (breakOff frames (.flawed .broken), false)
  | token :: rest =>
      match stepToken frames expect token with
      | .open_ frames expect => build frames expect rest
      | .complete doc => (doc, !rest.isEmpty)
      | .broken doc => (doc, false)

/-- The document at the start of a text, and whether more text follows it. -/
def parseDoc (bytes : List UInt8) : Doc × Bool :=
  build [] .value (tokens bytes)

/-- The value of a JSON text. -/
def parse? (bytes : List UInt8) : Option Json :=
  match parseDoc bytes with
  | (doc, false) => doc.json?
  | (_, true) => none

end Caretaker.Json
