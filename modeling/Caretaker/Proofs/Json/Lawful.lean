import Caretaker.Proofs.Calendar.WireForm
import Caretaker.Proofs.Json.Finite
import Caretaker.Proofs.Json.Records
import Caretaker.Proofs.Uuid
import Caretaker.Proofs.Vocabulary

/-!
# Lawful wire forms

A wire form is lawful when it leads back to the value it was written for.  Only numbers
stand in the way: JSON has no number for an infinity, so a value is read again if its
numbers are finite.  The values that are read have no others, since no text of a number
is read as an infinity.
-/

namespace Caretaker.Json

/-! ## Numbers inside a value -/

/-- Types whose values may have numbers in them. -/
class Numbered (α : Type) where
  numbers : α → List Float

export Numbered (numbers)

/-- Every number of the value has the property. -/
def EveryNumber {α : Type} [Numbered α] (holds : Float → Prop) (value : α) : Prop :=
  ∀ x ∈ numbers value, holds x

/-- Every number of the value is finite. -/
abbrev HasFiniteNumbers {α : Type} [Numbered α] (value : α) : Prop :=
  EveryNumber (fun x => x.isFinite = true) value

section

variable {α β : Type}

instance : Numbered String := ⟨fun _ => []⟩
instance : Numbered Bool := ⟨fun _ => []⟩
instance : Numbered Uuid := ⟨fun _ => []⟩
instance : Numbered Calendar.Instant := ⟨fun _ => []⟩
instance (priority := low) [Worded α] : Numbered α := ⟨fun _ => []⟩
instance : Numbered Float := ⟨fun x => [x]⟩
instance [Numbered α] : Numbered (Option α) := ⟨fun value => value.toList.flatMap numbers⟩
instance [Numbered α] : Numbered (List α) := ⟨fun values => values.flatMap numbers⟩

/-- JSON that is kept as it is has JSON numbers, which are not read as doubles. -/
instance : Numbered (List (String × Json)) := ⟨fun _ => []⟩

theorem everyNumber_nil {holds : Float → Prop} : ∀ x ∈ ([] : List Float), holds x :=
  fun _ member => absurd member List.not_mem_nil

theorem everyNumber_float {holds : Float → Prop} {x : Float} : EveryNumber holds x ↔ holds x :=
  List.forall_mem_singleton

section

variable [Numbered α] {holds : Float → Prop}

theorem everyNumber_list {values : List α} :
    EveryNumber holds values ↔ ∀ value ∈ values, EveryNumber holds value := by
  constructor
  · exact fun all value member x inside => all x (List.mem_flatMap.mpr ⟨value, member, inside⟩)
  · intro all x member
    obtain ⟨value, listed, inside⟩ := List.mem_flatMap.mp member
    exact all value listed x inside

theorem everyNumber_option {value : Option α} :
    EveryNumber holds value ↔ ∀ x ∈ value, EveryNumber holds x := by
  cases value with
  | none => simp [EveryNumber, numbers]
  | some value => simp [EveryNumber, numbers]

theorem EveryNumber.mono {more : Float → Prop} (implies : ∀ x, holds x → more x) {value : α}
    (all : EveryNumber holds value) : EveryNumber more value :=
  fun x member => implies x (all x member)

end

/-- Types whose values have no numbers in them. -/
class Numberless (α : Type) [Numbered α] : Prop where
  numbers_eq_nil (value : α) : numbers value = []

instance : Numberless String := ⟨fun _ => rfl⟩
instance : Numberless Bool := ⟨fun _ => rfl⟩
instance : Numberless Uuid := ⟨fun _ => rfl⟩
instance : Numberless Calendar.Instant := ⟨fun _ => rfl⟩
instance (priority := low) [Worded α] : Numberless α := ⟨fun _ => rfl⟩
instance : Numberless (List (String × Json)) := ⟨fun _ => rfl⟩

theorem numberless [Numbered α] [Numberless α] {holds : Float → Prop} {value : α} :
    EveryNumber holds value := by
  rw [EveryNumber, Numberless.numbers_eq_nil]
  exact everyNumber_nil

instance [Numbered α] [Numberless α] : Numberless (Option α) where
  numbers_eq_nil
    | none => rfl
    | some value => by
        show [value].flatMap numbers = []
        rw [List.flatMap_singleton, Numberless.numbers_eq_nil]

/-! ## Lawful types -/

/-- The wire form of a value is read as that value, and what is read has finite
numbers. -/
class LawfulWire (α : Type) [Wire α] [Numbered α] : Prop where
  read_encode {value : α} : HasFiniteNumbers value → Wire.read (encode value).doc = .ok value
  encode_ne_null {value : α} : HasFiniteNumbers value → encode value ≠ .null
  finite_of_read {doc : Doc} {value : α} : doc.IsFinite → Wire.read doc = .ok value →
    HasFiniteNumbers value

export LawfulWire (read_encode encode_ne_null finite_of_read)

theorem readText_text {parse : String → Option α} {text : String} {value : α}
    (parsed : parse text = some value) : readText parse (Json.str text).doc = .ok value := by
  rw [doc, readText, parsed]

instance : LawfulWire String where
  read_encode _ := rfl
  encode_ne_null _ := Json.noConfusion
  finite_of_read _ _ := numberless

instance : LawfulWire Bool where
  read_encode _ := rfl
  encode_ne_null _ := Json.noConfusion
  finite_of_read _ _ := numberless

instance : LawfulWire Uuid where
  read_encode _ := readText_text (Uuid.parse?_text _)
  encode_ne_null _ := Json.noConfusion
  finite_of_read _ _ := numberless

instance : LawfulWire Calendar.Instant where
  read_encode _ := readText_text (Calendar.Instant.readWire?_wireText _)
  encode_ne_null _ := Json.noConfusion
  finite_of_read _ _ := numberless

instance (priority := low) [Worded α] [LawfulWorded α] : LawfulWire α where
  read_encode {member} _ := by
    show readWord (.str (word member)) = .ok member
    rw [readWord, ofWord?_word]
  encode_ne_null _ := Json.noConfusion
  finite_of_read _ _ := numberless

theorem encode_float {x : Float} (finite : x.isFinite = true) : encode x = .num (.float x) := by
  show ofFloat x = _
  rw [ofFloat, if_pos finite]

instance : LawfulWire Float where
  read_encode finite := by
    rw [encode_float (everyNumber_float.mp finite)]
    rfl
  encode_ne_null finite := by
    rw [encode_float (everyNumber_float.mp finite)]
    exact Json.noConfusion
  finite_of_read {doc value} finite read := by
    cases doc with
    | num n =>
        cases read
        exact everyNumber_float.mpr finite
    | _ => cases read

theorem readOption_of_ne_null {read : Reader α} {doc : Doc} (given : doc ≠ .null) {value : α}
    (ok : read doc = .ok value) : readOption read doc = .ok (some value) := by
  rw [readOption.eq_def]
  split
  · exact absurd rfl given
  · rw [ok]

section

variable [Wire α] [Numbered α] [LawfulWire α]

theorem readItems_map_doc {values : List α} (finite : ∀ value ∈ values, HasFiniteNumbers value) :
    readItems Wire.read ((values.map encode).map doc) = .ok values := by
  induction values with
  | nil => rfl
  | cons value rest inductionHypothesis =>
      obtain ⟨head, tail⟩ := List.forall_mem_cons.mp finite
      rw [List.map_cons, List.map_cons, readItems, read_encode head, inductionHypothesis tail]

theorem finite_of_readItems {items : List Doc} (finite : ∀ item ∈ items, item.IsFinite) :
    ∀ {values : List α}, readItems Wire.read items = .ok values →
      ∀ value ∈ values, HasFiniteNumbers value := by
  induction items with
  | nil =>
      intro values read
      cases read
      exact fun _ member => absurd member List.not_mem_nil
  | cons item rest inductionHypothesis =>
      intro values read
      obtain ⟨head, tail⟩ := List.forall_mem_cons.mp finite
      simp only [readItems] at read
      split at read
      · cases read
      · rename_i value readHead
        split at read
        · cases read
        · rename_i values' readTail
          cases read
          exact List.forall_mem_cons.mpr
            ⟨finite_of_read head readHead, inductionHypothesis tail readTail⟩

instance : LawfulWire (List α) where
  read_encode {values} finite := by
    show (match (Json.arr (values.map encode)).doc with
      | .arr items => readItems Wire.read items
      | other => Except.error (faultOf other)) = .ok values
    rw [doc, docItems_eq_map]
    exact readItems_map_doc (everyNumber_list.mp finite)
  encode_ne_null _ := Json.noConfusion
  finite_of_read {doc values} finite read := by
    cases doc with
    | arr items => exact everyNumber_list.mpr (finite_of_readItems (isFinite_arr.mp finite) read)
    | _ => cases read

theorem doc_encode_ne_null {value : α} (finite : HasFiniteNumbers value) :
    (encode value).doc ≠ .null := by
  have written := encode_ne_null finite
  cases form : encode value with
  | null => exact absurd form written
  | _ => exact Doc.noConfusion

theorem readOption_encode {value : Option α} (finite : HasFiniteNumbers value) :
    readOption Wire.read (encode value).doc = .ok value := by
  cases value with
  | none => rfl
  | some value =>
      have inside := everyNumber_option.mp finite value rfl
      exact readOption_of_ne_null (doc_encode_ne_null inside) (read_encode inside)

theorem finite_of_readOption {doc : Doc} {value : Option α} (finite : doc.IsFinite)
    (read : readOption Wire.read doc = .ok value) : HasFiniteNumbers value := by
  refine everyNumber_option.mpr fun inner given => ?_
  rw [Option.mem_def.mp given] at read
  exact finite_of_read finite (read_of_readOption read)

end

/-! ## Building a record from what was written -/

/-- Where what is built is the value in other words. -/
theorem build_eq {r : Record α} {given : Given} {found value : α} (built : r.build given = .ok found)
    (same : found = value) : r.build given = .ok value :=
  same ▸ built

section

variable {fields : List (String × Option Json)} (distinct : (fields.map Prod.fst).Nodup)
  {name : String}

include distinct

theorem build_fieldOf {read : Reader α} {absent : Given → Except Fault α} {json : Json} {value : α}
    (listed : fields.lookup name = some (some json)) (ok : read json.doc = .ok value) :
    (fieldOf name read absent).build (written fields) = .ok value := by
  simp only [fieldOf, lookup_written distinct, listed]
  exact ok

variable [Wire α] [Numbered α] [LawfulWire α]

theorem build_required {value : α} (listed : fields.lookup name = some (some (encode value)))
    (finite : HasFiniteNumbers value) :
    (required name).build (written fields) = .ok value :=
  build_fieldOf distinct listed (read_encode finite)

theorem build_optional {value : Option α}
    (listed : fields.lookup name = some (some (encode value))) (finite : HasFiniteNumbers value) :
    (optional name).build (written fields) = .ok value :=
  build_fieldOf distinct listed (readOption_encode finite)

/-- A field that is written as `null` where it might have been left out. -/
theorem build_omittable_put {value : Option α}
    (listed : fields.lookup name = some (some (encode value))) (finite : HasFiniteNumbers value) :
    (omittable name).build (written fields) = .ok value :=
  build_fieldOf distinct listed (readOption_encode finite)

theorem build_defaulted {value default : α}
    (listed : fields.lookup name = some (some (encode value))) (finite : HasFiniteNumbers value) :
    (defaulted name Wire.read default).build (written fields) = .ok value :=
  build_fieldOf distinct listed (read_encode finite)

theorem build_omittable {value : Option α} (listed : fields.lookup name = some (value.map encode))
    (finite : HasFiniteNumbers value) :
    (omittable name).build (written fields) = .ok value := by
  cases value with
  | none =>
      simp only [omittable, defaulted, fieldOf, lookup_written distinct, listed]
      rfl
  | some value =>
      have read : readOption Wire.read (encode value).doc = .ok (some value) :=
        readOption_encode finite
      exact build_fieldOf distinct listed read

omit [Wire α] [Numbered α] [LawfulWire α]

theorem build_defaulted_fields {value default : List (String × Json)}
    (listed : fields.lookup name = some (some (.obj value))) :
    (defaulted name readFields default).build (written fields) = .ok value := by
  refine build_fieldOf distinct listed ?_
  rw [doc, readFields, jsonFields?_docFields]

end

/-! ## Records that are built of finite numbers -/

/-- What a record is built of: values with finite numbers, and functions that lead to
such values. -/
class Finitary (α : Type) where
  Keeps : α → Prop

instance [Numbered α] : Finitary α := ⟨HasFiniteNumbers⟩
instance [Finitary α] [Finitary β] : Finitary (α → β) :=
  ⟨fun f => ∀ x, Finitary.Keeps x → Finitary.Keeps (f x)⟩

/-- Documents with finite numbers lead to values with finite numbers. -/
class FiniteRecord {α : Type} [Finitary α] (r : Record α) : Prop where
  keeps_of_build {given : Given} {value : α} : (∀ entry ∈ given.entries, entry.2.IsFinite) →
    r.build given = .ok value → Finitary.Keeps value

section

variable [Wire α] [Numbered α] [LawfulWire α] (name : String)

instance : FiniteRecord (required (α := α) name) where
  keeps_of_build finite := of_build_fieldOf finite (fun _ => finite_of_read) nofun

instance : FiniteRecord (optional (α := α) name) where
  keeps_of_build finite := of_build_fieldOf finite (fun _ => finite_of_readOption) fun absent => by
    split at absent
    · cases absent
    · cases absent
      exact everyNumber_nil

instance : FiniteRecord (omittable (α := α) name) where
  keeps_of_build finite := of_build_fieldOf finite (fun _ => finite_of_readOption) fun absent => by
    cases absent
    exact everyNumber_nil

instance : FiniteRecord (defaulted name Wire.read ([] : List α)) where
  keeps_of_build finite := of_build_fieldOf finite (fun _ => finite_of_read) fun absent => by
    cases absent
    exact everyNumber_nil

end

instance (priority := low) [Numbered α] [Numberless α] (r : Record α) : FiniteRecord r where
  keeps_of_build _ _ := numberless

theorem FiniteRecord.map [Finitary α] [Finitary β] {f : α → β} {r : Record α}
    [part : FiniteRecord r] (keeps : Finitary.Keeps f) : FiniteRecord (f <$> r) where
  keeps_of_build finite built := by
    obtain ⟨x, inner, rfl⟩ := of_build_map built
    exact keeps x (part.keeps_of_build finite inner)

instance [Finitary α] [Finitary β] (f : Record (α → β)) (r : Unit → Record α)
    [function : FiniteRecord f] [part : FiniteRecord (r ())] : FiniteRecord (Seq.seq f r) where
  keeps_of_build finite built := by
    obtain ⟨g, x, before, inner, rfl⟩ := of_build_seq built
    exact function.keeps_of_build finite before x (part.keeps_of_build finite inner)

/-- What is read as a record has finite numbers if the document has. -/
theorem finite_of_read_record [Numbered α] {r : Record α} [finiteRecord : FiniteRecord r]
    {doc : Doc} {value : α} (finite : doc.IsFinite) (read : r.read doc = .ok value) :
    HasFiniteNumbers value := by
  obtain ⟨given, parts, built⟩ := exists_given_of_read
    (fun _ same => isFinite_obj.mp (same ▸ finite))
    (fun _ same => isFinite_arr.mp (same ▸ finite)) read
  exact finiteRecord.keeps_of_build parts built

/-- A type is lawful if each of its values can be built from what is written of it. -/
theorem LawfulWire.of_record [Wire α] [Numbered α] {r : Record α} [HonestRecord r]
    [FiniteRecord r] {fields : α → List (String × Option Json)} (reads : Wire.read = r.read)
    (writes : ∀ value : α, encode value = record (fields value))
    (distinct : ∀ value, ((fields value).map Prod.fst).Nodup)
    (built : ∀ value, HasFiniteNumbers value → ((fields value).map Prod.fst).Nodup →
      r.build (written (fields value)) = .ok value) : LawfulWire α where
  read_encode {value} finite := by
    rw [writes, reads]
    exact read_record (distinct value) (built value finite)
  encode_ne_null _ := by
    rw [writes]
    exact Json.noConfusion
  finite_of_read finite read := by
    rw [reads] at read
    exact finite_of_read_record finite read

end

end Caretaker.Json
