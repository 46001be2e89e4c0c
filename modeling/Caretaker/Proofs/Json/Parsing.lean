import Caretaker.Json.Wire
import Caretaker.Proofs.Json.Compact
import Caretaker.Proofs.Json.Shape

/-!
# Compact text read again

The tokens of a value put the document of that value where the value was expected.  This
goes by induction on the value, for all containers that are open around it: their number
and what may stand inside the value stay within the limit together.
-/

namespace Caretaker.Json

open Text

/-- What happens after a value was put in place. -/
def goOn (placed : List Frame × Option Doc) (rest : List Token) : Doc × Bool :=
  match placed with
  | (_, some doc) => (doc, !rest.isEmpty)
  | (frames, none) => build frames .commaOrClose rest

theorem build_ofPlaced {frames : List Frame} {expect : Expect} {token : Token}
    {placed : List Frame × Option Doc}
    (stepped : stepToken frames expect token = .ofPlaced placed) (rest : List Token) :
    build frames expect (token :: rest) = goOn placed rest := by
  obtain ⟨outer, doc⟩ := placed
  rw [build, stepped]
  cases doc <;> rfl

/-- Entries with distinct names stay as they are. -/
theorem inOrder_reverse {fields : List (String × Doc)} (distinct : (fields.map Prod.fst).Nodup) :
    inOrder (fields.map fun field => (some field.1, field.2)).reverse =
      fields.map fun field => (some field.1, field.2) := by
  rw [inOrder_eq_foldl, List.foldl_reverse]
  induction fields with
  | nil => rfl
  | cons field rest inductionHypothesis =>
      simp only [List.map_cons, List.nodup_cons] at distinct
      rw [List.map_cons, List.foldr_cons, inductionHypothesis distinct.2, precede, if_neg]
      simp only [Option.isSome_some, Bool.true_and, List.any_eq_true, not_exists, not_and]
      intro entry member same
      obtain ⟨other, listed, rfl⟩ := List.mem_map.mp member
      exact distinct.1 (List.mem_map.mpr ⟨other, listed, by simpa using same⟩)

theorem closeAt_of_lt {depth : Nat} (fits : depth < maxDepth) (container : Doc) :
    closeAt depth container = container :=
  if_neg (Nat.not_le_of_lt fits)

theorem itemTokens_cons_cons (item next : Json) (more : List Json) :
    itemTokens (item :: next :: more) = tokensOf item ++ .comma :: itemTokens (next :: more) := by
  rw [itemTokens]
  exact nofun

/-- A value may stand where an array could also end. -/
theorem build_valueOrClose (json : Json) (frames : List Frame) (rest : List Token) :
    build frames .valueOrClose (tokensOf json ++ rest) =
      build frames .value (tokensOf json ++ rest) := by
  cases json <;> rfl

theorem build_itemsOrClose (item : Json) (more : List Json) (frames : List Frame)
    (rest : List Token) :
    build frames .valueOrClose (itemTokens (item :: more) ++ rest) =
      build frames .value (itemTokens (item :: more) ++ rest) := by
  cases more with
  | nil => exact build_valueOrClose item frames rest
  | cons next more =>
      rw [itemTokens_cons_cons, List.append_assoc]
      exact build_valueOrClose item frames _

theorem docEntries_reverse {fields : List (String × Json)} (distinct : (fields.map Prod.fst).Nodup) :
    Doc.ofEntries (docFields fields).reverse = .obj (docFields fields) := by
  have names : ((fields.map fun field => (field.1, field.2.doc)).map Prod.fst).Nodup := by
    rwa [List.map_map]
  have same : docFields fields =
      (fields.map fun field => (field.1, field.2.doc)).map fun field => (some field.1, field.2) := by
    rw [docFields_eq_map, List.map_map]
    rfl
  rw [Doc.ofEntries, same, inOrder_reverse names]

/-- A name may stand where an object could also end. -/
theorem build_nameOrClose (field : String × Json) (more : List (String × Json))
    (frames : List Frame) (rest : List Token) :
    build frames .nameOrClose (fieldTokens (field :: more) ++ rest) =
      build frames .name (fieldTokens (field :: more) ++ rest) := by
  cases more <;> rfl

mutual

/-- The tokens of a value put the document of the value in its place. -/
theorem build_tokensOf {room : Nat} : ∀ json : Json, Shaped room json →
    ∀ (frames : List Frame) (rest : List Token), frames.length + room ≤ maxDepth →
      build frames .value (tokensOf json ++ rest) = goOn (place frames json.doc) rest
  | .null, _, _, rest, _ => build_ofPlaced rfl rest
  | .bool _, _, _, rest, _ => build_ofPlaced rfl rest
  | .num _, _, _, rest, _ => build_ofPlaced rfl rest
  | .str _, _, _, rest, _ => build_ofPlaced rfl rest
  | .arr [], shaped, frames, rest, fits => by
      cases shaped with
      | arr _ =>
          have closed := closeAt_of_lt (show frames.length < maxDepth by omega) (.arr [])
          show build (.arr [] :: frames) .valueOrClose (.closeArray :: rest) = _
          rw [build_ofPlaced rfl]
          show goOn (place frames (closeAt frames.length (.arr []))) rest = _
          rw [closed]
          rfl
  | .arr (item :: more), shaped, frames, rest, fits => by
      cases shaped with
      | arr inside =>
          have items := build_itemTokens item more inside [] frames rest fits
          have written : tokensOf (.arr (item :: more)) ++ rest =
              .openArray :: (itemTokens (item :: more) ++ .closeArray :: rest) := by
            simp [tokensOf]
          rw [written]
          show build (.arr [] :: frames) .valueOrClose _ = _
          rw [build_itemsOrClose, items]
          rfl
  | .obj [], shaped, frames, rest, fits => by
      cases shaped with
      | obj _ _ =>
          have closed := closeAt_of_lt (show frames.length < maxDepth by omega) (.obj [])
          show build (.obj [] none :: frames) .nameOrClose (.closeObject :: rest) = _
          rw [build_ofPlaced rfl]
          show goOn (place frames (closeAt frames.length (.obj []))) rest = _
          rw [closed]
          rfl
  | .obj (field :: more), shaped, frames, rest, fits => by
      cases shaped with
      | obj distinct inside =>
          have fields := build_fieldTokens field more inside [] none frames rest fits
          have written : tokensOf (.obj (field :: more)) ++ rest =
              .openObject :: (fieldTokens (field :: more) ++ .closeObject :: rest) := by
            simp [tokensOf]
          rw [written]
          show build (.obj [] none :: frames) .nameOrClose _ = _
          rw [build_nameOrClose, fields, List.append_nil, docEntries_reverse distinct]
          rfl

theorem build_itemTokens {room : Nat} : ∀ (item : Json) (more : List Json),
    (∀ json ∈ item :: more, Shaped room json) →
    ∀ (done : List Doc) (frames : List Frame) (rest : List Token),
      frames.length + (room + 1) ≤ maxDepth →
      build (.arr done :: frames) .value (itemTokens (item :: more) ++ .closeArray :: rest) =
        goOn (place frames (.arr (done.reverse ++ docItems (item :: more)))) rest
  | item, [], inside, done, frames, rest, fits => by
      have closed := closeAt_of_lt (show frames.length < maxDepth by omega)
      rw [itemTokens, build_tokensOf item (inside item (by simp)) _ _
        (by rw [List.length_cons]; omega)]
      show build (.arr (item.doc :: done) :: frames) .commaOrClose (.closeArray :: rest) = _
      rw [build_ofPlaced rfl]
      show goOn (place frames (closeAt frames.length (.arr (item.doc :: done).reverse))) rest = _
      rw [closed, List.reverse_cons]
      rfl
  | item, next :: more, inside, done, frames, rest, fits => by
      obtain ⟨first, later⟩ := List.forall_mem_cons.mp inside
      rw [itemTokens_cons_cons, List.append_assoc, build_tokensOf item first _ _
        (by rw [List.length_cons]; omega)]
      show build (.arr (item.doc :: done) :: frames) .value
        (itemTokens (next :: more) ++ .closeArray :: rest) = _
      rw [build_itemTokens next more later _ _ _ fits, List.reverse_cons, List.append_assoc]
      rfl

theorem build_fieldTokens {room : Nat} : ∀ (field : String × Json) (more : List (String × Json)),
    (∀ entry ∈ field :: more, Shaped room entry.2) →
    ∀ (done : List (Option String × Doc)) (name : Option String) (frames : List Frame)
      (rest : List Token), frames.length + (room + 1) ≤ maxDepth →
      build (.obj done name :: frames) .name
          (fieldTokens (field :: more) ++ .closeObject :: rest) =
        goOn (place frames (Doc.ofEntries ((docFields (field :: more)).reverse ++ done))) rest
  | (name, value), [], inside, done, _, frames, rest, fits => by
      have closed := closeAt_of_lt (show frames.length < maxDepth by omega)
      show build (.obj done (some name) :: frames) .value
        (tokensOf value ++ .closeObject :: rest) = _
      rw [build_tokensOf value (inside (name, value) (by simp)) _ _
        (by rw [List.length_cons]; omega)]
      show build (.obj ((some name, value.doc) :: done) none :: frames) .commaOrClose
        (.closeObject :: rest) = _
      rw [build_ofPlaced rfl]
      show goOn (place frames (closeAt frames.length
        (Doc.ofEntries ((some name, value.doc) :: done)))) rest = _
      rw [closed]
      rfl
  | (name, value), next :: more, inside, done, _, frames, rest, fits => by
      obtain ⟨first, later⟩ := List.forall_mem_cons.mp inside
      have written : fieldTokens ((name, value) :: next :: more) ++ .closeObject :: rest =
          .str name :: .colon ::
            (tokensOf value ++ .comma :: (fieldTokens (next :: more) ++ .closeObject :: rest)) := by
        simp [fieldTokens]
      rw [written]
      show build (.obj done (some name) :: frames) .value (tokensOf value ++ _) = _
      rw [build_tokensOf value first _ _ (by rw [List.length_cons]; omega)]
      show build (.obj ((some name, value.doc) :: done) none :: frames) .name
        (fieldTokens (next :: more) ++ .closeObject :: rest) = _
      have listed : (docFields ((name, value) :: next :: more)).reverse ++ done =
          (docFields (next :: more)).reverse ++ (some name, value.doc) :: done := by
        rw [docFields, List.reverse_cons, List.append_assoc]
        rfl
      rw [build_fieldTokens next more later _ _ _ _ fits, listed]

end

/-- The document of compact text is the document of the value. -/
theorem parseDoc_compact {json : Json} (readable : Readable json) (shaped : Shaped maxDepth json) :
    parseDoc (bytesOf (compact json)) = (json.doc, false) := by
  have built := build_tokensOf json shaped [] [] (Nat.le_of_eq (Nat.zero_add _))
  rw [List.append_nil] at built
  rw [parseDoc, tokens_compact readable, built]
  rfl

/-- A value is read from its compact text as it is read from its own document. -/
theorem decodeText_compact {α : Type} [Wire α] {json : Json} (readable : Readable json)
    (shaped : Shaped maxDepth json) {value : α} (read : Wire.read json.doc = .ok value) :
    decodeText (bytesOf (compact json)) = .ok value := by
  rw [decodeText, parseDoc_compact readable shaped]
  simp only [read, Bool.false_eq_true, if_false]

end Caretaker.Json
