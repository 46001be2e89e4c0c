import Caretaker.Proofs.Json.Lawful
import Caretaker.Proofs.Json.Parsing

/-!
# Text forms

The compact text of a value is read as that value when each of its doubles is read back
from its own text.  That is more than being finite: a reader makes one multiplication or
division out of a decimal literal, and the result may be a neighbour of the number that
was written.  The other limit is the depth of the text, which only values that hold JSON
of their own can exceed, and which nothing exceeds that was read from a text.
-/

namespace Caretaker.Json

open Text

/-! ## Types of limited depth -/

section

variable {α : Type}

/-- Every number of the value is read back from its text. -/
abbrev HasReadableNumbers [Numbered α] (value : α) : Prop :=
  EveryNumber (fun x => (Number.float x).ReadsBack) value

/-- A number that is read back from its text is finite. -/
theorem Number.ReadsBack.isFinite {n : Number} (reads : n.ReadsBack) : n.IsFinite := by
  have listed : .num n ∈ tokens (bytesOf n.text) := by
    rw [show tokens (bytesOf n.text) = [.num n] from reads]
    exact List.mem_singleton_self _
  exact isFinite_tokensFrom (.num n) listed

theorem HasReadableNumbers.finite [Numbered α] {value : α} (readable : HasReadableNumbers value) :
    HasFiniteNumbers value :=
  readable.mono fun _ reads => reads.isFinite

/-- A JSON value that contains these doubles, with no more than `height` containers around
anything in it. -/
structure TextForm (height : Nat) (doubles : List Float) (json : Json) : Prop where
  shaped {room : Nat} : height ≤ room → Shaped room json
  readable : (∀ x ∈ doubles, (Number.float x).ReadsBack) → Readable json

theorem TextForm.mono {height more : Nat} {doubles others : List Float} {json : Json}
    (form : TextForm height doubles json) (le : height ≤ more) (inside : doubles ⊆ others) :
    TextForm more others json where
  shaped fits := form.shaped (Nat.le_trans le fits)
  readable reads := form.readable fun x member => reads x (inside member)

theorem textForm_str {doubles : List Float} (s : String) : TextForm 0 doubles (.str s) :=
  ⟨fun _ => .str, fun _ => .str⟩

/-- The wire forms of the type contain nothing but the numbers of their values, and their
height is limited. -/
class LawfulText (α : Type) [Wire α] [Numbered α] (height : outParam Nat) : Prop where
  textForm (value : α) : TextForm height (numbers value) (encode value)

export LawfulText (textForm)

instance : LawfulText String 0 := ⟨textForm_str⟩
instance : LawfulText Bool 0 := ⟨fun _ => ⟨fun _ => .bool, fun _ => .bool⟩⟩
instance : LawfulText Uuid 0 := ⟨fun id => textForm_str id.text⟩
instance : LawfulText Calendar.Instant 0 := ⟨fun t => textForm_str t.wireText⟩
instance (priority := low) [Worded α] : LawfulText α 0 := ⟨fun member => textForm_str (word member)⟩

instance : LawfulText Float 0 where
  textForm x := by
    constructor
    · intro room _
      show Shaped room (ofFloat x)
      rw [ofFloat]
      split
      · exact .num
      · exact .null
    · intro reads
      have readsBack := reads x (List.mem_singleton_self x)
      have finite : x.isFinite = true := readsBack.isFinite
      rw [encode_float finite]
      exact .double readsBack

theorem numbers_some [Numbered α] (value : α) : numbers (some value) = numbers value :=
  List.flatMap_singleton ..

theorem numberless_subset [Numbered α] [Numberless α] {value : α} {doubles : List Float} :
    numbers value ⊆ doubles := by
  rw [Numberless.numbers_eq_nil]
  exact List.nil_subset _

section

variable [Wire α] [Numbered α] {height : Nat}

instance [LawfulText α height] : LawfulText (Option α) height where
  textForm
    | none => ⟨fun _ => .null, fun _ => .null⟩
    | some value => numbers_some value ▸ textForm value

instance [LawfulText α height] : LawfulText (List α) (height + 1) where
  textForm values := by
    constructor
    · intro room fits
      obtain ⟨room, rfl⟩ := Nat.exists_eq_add_of_le' (Nat.le_of_add_left_le fits)
      refine .arr fun item member => ?_
      obtain ⟨value, -, rfl⟩ := List.mem_map.mp member
      exact (textForm value).shaped (Nat.le_of_succ_le_succ fits)
    · intro reads
      refine .arr fun item member => ?_
      obtain ⟨value, listed, rfl⟩ := List.mem_map.mp member
      exact (textForm value).readable fun x inside =>
        reads x (List.mem_flatMap.mpr ⟨value, listed, inside⟩)

section

variable [LawfulText α height] {more : Nat} {doubles : List Float} (le : height ≤ more)
  {name : String}

include le

theorem textForm_put {value : α} (inside : numbers value ⊆ doubles) :
    ∀ json ∈ (put name value).2, TextForm more doubles json := by
  rintro json ⟨⟩
  exact (textForm value).mono le inside

theorem textForm_putSome {value : Option α} (inside : numbers value ⊆ doubles) :
    ∀ json ∈ (putSome name value).2, TextForm more doubles json := by
  intro json member
  obtain ⟨present, rfl, rfl⟩ := Option.map_eq_some_iff.mp member
  exact (textForm present).mono le (numbers_some present ▸ inside)

end

end

/-- A record with distinct names is shaped around its fields. -/
theorem shaped_record {room : Nat} {fields : List (String × Option Json)}
    (distinct : (fields.map Prod.fst).Nodup)
    (inside : ∀ field ∈ fields, ∀ json ∈ field.2, Shaped room json) :
    Shaped (room + 1) (record fields) := by
  rw [record_eq]
  refine .obj (nodup_present distinct) fun field member => ?_
  obtain ⟨original, listed, given⟩ := List.mem_filterMap.mp member
  obtain ⟨json, present, rfl⟩ := Option.map_eq_some_iff.mp given
  exact inside original listed json present

theorem readable_record {fields : List (String × Option Json)}
    (inside : ∀ field ∈ fields, ∀ json ∈ field.2, Readable json) : Readable (record fields) := by
  rw [record_eq]
  refine .obj fun field member => ?_
  obtain ⟨original, listed, given⟩ := List.mem_filterMap.mp member
  obtain ⟨json, present, rfl⟩ := Option.map_eq_some_iff.mp given
  exact inside original listed json present

/-- A record is one higher than its fields. -/
theorem LawfulText.of_record [Wire α] [Numbered α] {height : Nat}
    {fields : α → List (String × Option Json)}
    (writes : ∀ value : α, encode value = record (fields value))
    (distinct : ∀ value, ((fields value).map Prod.fst).Nodup)
    (inside : ∀ value, ∀ field ∈ fields value, ∀ json ∈ field.2,
      TextForm height (numbers value) json) :
    LawfulText α (height + 1) where
  textForm value := by
    rw [writes]
    constructor
    · intro room fits
      obtain ⟨room, rfl⟩ := Nat.exists_eq_add_of_le' (Nat.le_of_add_left_le fits)
      exact shaped_record (distinct value) fun field listed json present =>
        (inside value field listed json present).shaped (Nat.le_of_succ_le_succ fits)
    · intro reads
      exact readable_record fun field listed json present =>
        (inside value field listed json present).readable reads

/-! ## Flat records -/

/-- Nothing stands in the fields but values without numbers and without containers. -/
class FlatFields (fields : List (String × Option Json)) : Prop where
  textForm : ∀ field ∈ fields, ∀ json ∈ field.2, TextForm 0 [] json

instance : FlatFields [] := ⟨List.forall_mem_nil _⟩

instance [Wire α] [Numbered α] [Numberless α] [LawfulText α 0] {name : String} {value : α}
    {rest : List (String × Option Json)} [FlatFields rest] :
    FlatFields (put name value :: rest) where
  textForm := List.forall_mem_cons.mpr
    ⟨textForm_put (Nat.le_refl 0) numberless_subset, FlatFields.textForm⟩

/-- A record of flat fields has a height of one. -/
theorem LawfulText.of_flat [Wire α] [Numbered α] {fields : α → List (String × Option Json)}
    (writes : ∀ value : α, encode value = record (fields value))
    (distinct : ∀ value, ((fields value).map Prod.fst).Nodup)
    [flat : ∀ value, FlatFields (fields value)] : LawfulText α 1 :=
  .of_record writes distinct fun value field listed json present =>
    ((flat value).textForm field listed json present).mono (Nat.le_refl 0) (List.nil_subset _)

end

/-! ## JSON that is kept as it is -/

theorem exists_given_of_fits {α : Type} {r : Record α} {doc : Doc} {value : α} {room : Nat}
    (fits : doc.Fits (room + 1)) (read : r.read doc = .ok value) :
    ∃ given : Given, (∀ entry ∈ given.entries, entry.2.Fits room) ∧ r.build given = .ok value :=
  exists_given_of_read (fun _ same => (same ▸ fits).entries) (fun _ same => (same ▸ fits).items)
    read

/-- JSON that was read has the shape of the document it was read from. -/
theorem shaped_of_readFields {doc : Doc} {room : Nat} {fields : List (String × Json)}
    (fits : doc.Fits room) (read : readFields doc = .ok fields) : Shaped room (.obj fields) := by
  cases doc with
  | obj entries =>
      simp only [readFields] at read
      split at read
      · rename_i found inner
        cases read
        exact fits.shaped (by rw [Doc.json?, inner]; rfl)
      · cases read
  | _ => cases read

theorem shaped_of_build_fields {given : Given} {name : String} {room : Nat}
    {fields : List (String × Json)} (parts : ∀ entry ∈ given.entries, entry.2.Fits (room + 1))
    (built : (defaulted name readFields []).build given = .ok fields) :
    Shaped (room + 1) (.obj fields) := by
  refine @of_build_fieldOf _ _ _ _ _ _ _ (fun fields => Shaped (room + 1) (.obj fields)) parts
    (fun _ => shaped_of_readFields) (fun absent => ?_) built
  cases absent
  exact .obj .nil fun _ member => absurd member List.not_mem_nil

/-! ## Values and their text -/

/-- The wire forms of a type lead back to its values. -/
structure Restored (α : Type) [Wire α] [Numbered α] : Prop where
  /-- A value is read from its JSON value. -/
  decode?_encode {value : α} : HasFiniteNumbers value → decode? (encode value) = some value
  /-- A value is read from its JSON text if the numbers in the text are read back. -/
  decodeText_encode {value : α} : HasFiniteNumbers value → Readable (encode value) →
    Shaped maxDepth (encode value) → decodeText (bytesOf (compact (encode value))) = .ok value
  /-- What was read from a JSON value is read again from what is written of it. -/
  of_decode? {json : Json} {value : α} : json.doc.IsFinite → decode? json = some value →
    decode? (encode value) = some value
  /-- What was read from a JSON text is read again from what is written of it. -/
  of_decodeText {bytes : List UInt8} {value : α} : decodeText bytes = .ok value →
    decode? (encode value) = some value ∧
      (Readable (encode value) → decodeText (bytesOf (compact (encode value))) = .ok value)

/-- The wire forms of a type lead back to its values, and the only limit of their text is
that its numbers have to be read back. -/
structure RestoredFromText (α : Type) [Wire α] [Numbered α] : Prop extends Restored α where
  decodeText_text {value : α} : HasReadableNumbers value →
    decodeText (bytesOf (compact (encode value))) = .ok value

section

variable {α : Type} [Wire α]

theorem read_of_decodeText {bytes : List UInt8} {value : α} (read : decodeText bytes = .ok value) :
    Wire.read (parseDoc bytes).1 = .ok value := by
  simp only [decodeText] at read
  split at read
  · cases read
  · rename_i found inner
    split at read
    · cases read
    · cases read
      exact inner

theorem decode?_eq_some {json : Json} {value : α} :
    decode? json = some value ↔ Wire.read json.doc = .ok value := by
  rw [decode?]
  cases (Wire.read json.doc : Except Fault α) <;> simp [Except.toOption]

/-- A lawful type is restored if what is read from a text has the shape of a text. -/
theorem restored [Numbered α] [LawfulWire α]
    (shapes : ∀ {doc : Doc} {value : α}, doc.Fits maxDepth → Wire.read doc = .ok value →
      Shaped maxDepth (encode value)) : Restored α where
  decode?_encode finite := decode?_eq_some.mpr (read_encode finite)
  decodeText_encode finite readable shaped :=
    decodeText_compact readable shaped (read_encode finite)
  of_decode? finite read :=
    decode?_eq_some.mpr (read_encode (finite_of_read finite (decode?_eq_some.mp read)))
  of_decodeText {bytes value} read := by
    have inner := read_of_decodeText read
    have again := read_encode (finite_of_read (isFinite_parseDoc bytes) inner)
    have fits := shapes (fits_parseDoc bytes) inner
    exact ⟨decode?_eq_some.mpr again, fun readable => decodeText_compact readable fits again⟩

theorem restoredFromText [Numbered α] [LawfulWire α] {height : Nat} [LawfulText α height]
    (low : height ≤ maxDepth) : RestoredFromText α where
  toRestored := restored fun {_ value} _ _ => (textForm value).shaped low
  decodeText_text {value} readable :=
    decodeText_compact ((textForm value).readable readable) ((textForm value).shaped low)
      (read_encode readable.finite)

end

end Caretaker.Json
