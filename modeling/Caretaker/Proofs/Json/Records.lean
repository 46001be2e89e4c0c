import Caretaker.Json.Wire

/-!
# Records that were written

A record that was written is read again when its value can be built from the fields that
are present.  The check of the entries, which a reader makes first, finds no fault then:
no name stands there twice, and a field of which the value was built has no fault.
-/

namespace Caretaker.Json

/-! ## The fields that are present -/

/-- The fields of a record that are present. -/
def present (fields : List (String × Option Json)) : List (String × Json) :=
  fields.filterMap fun field => field.2.map fun value => (field.1, value)

theorem record_eq (fields : List (String × Option Json)) : record fields = .obj (present fields) :=
  rfl

/-- The names that are present are among the names of the record, in the same order. -/
theorem names_present_sublist (fields : List (String × Option Json)) :
    ((present fields).map Prod.fst).Sublist (fields.map Prod.fst) := by
  induction fields with
  | nil => exact .slnil
  | cons field rest inductionHypothesis =>
      obtain ⟨name, value⟩ := field
      cases value with
      | none => exact .cons _ inductionHypothesis
      | some value => exact .cons_cons _ inductionHypothesis

theorem nodup_present {fields : List (String × Option Json)}
    (distinct : (fields.map Prod.fst).Nodup) : ((present fields).map Prod.fst).Nodup :=
  distinct.sublist (names_present_sublist fields)

/-- What is found under a name in a list whose names are distinct. -/
theorem lookup_of_mem {β : Type} {entries : List (String × β)}
    (distinct : (entries.map Prod.fst).Nodup) {entry : String × β} (member : entry ∈ entries) :
    entries.lookup entry.1 = some entry.2 := by
  induction entries with
  | nil => cases member
  | cons head rest inductionHypothesis =>
      simp only [List.map_cons, List.nodup_cons] at distinct
      rcases List.mem_cons.mp member with rfl | later
      · exact List.lookup_cons_self
      · have other : (entry.1 == head.1) = false := by
          refine beq_eq_false_iff_ne.mpr fun same => distinct.1 ?_
          exact same ▸ List.mem_map_of_mem later
        rw [List.lookup_cons, other]
        exact inductionHypothesis distinct.2 later

/-! ## Entries without faults -/

mutual

/-- The text of a value does not break off. -/
theorem isBroken_doc : ∀ json : Json, json.doc.isBroken = false
  | .null | .bool _ | .num _ | .str _ => rfl
  | .arr items => by rw [doc, Doc.isBroken, anyBroken_docItems items]
  | .obj fields => by rw [doc, Doc.isBroken, anyEntryBroken_docFields fields]

theorem anyBroken_docItems : ∀ items : List Json, Doc.anyBroken (docItems items) = false
  | [] => rfl
  | item :: rest => by
      rw [docItems, Doc.anyBroken, isBroken_doc item, anyBroken_docItems rest]
      rfl

theorem anyEntryBroken_docFields : ∀ fields : List (String × Json),
    Doc.anyEntryBroken (docFields fields) = false
  | [] => rfl
  | (_, value) :: rest => by
      rw [docFields, Doc.anyEntryBroken, isBroken_doc value, anyEntryBroken_docFields rest]
      rfl

end

/-- Entries with distinct names that have no fault, field by field, have none together. -/
theorem checkEntries_docFields {slots : List Slot} {entries : List (String × Json)}
    (faultless : ∀ slot ∈ slots, ∀ entry ∈ entries, slot.name = entry.1 →
      slot.check entry.2.doc = .ok ()) :
    ∀ {seen : List String}, (entries.map Prod.fst).Nodup →
      (∀ entry ∈ entries, seen.contains entry.1 = false) →
      checkEntries slots seen (docFields entries) = .ok () := by
  induction entries with
  | nil => exact fun _ _ => rfl
  | cons entry rest inductionHypothesis =>
      intro seen distinct fresh
      obtain ⟨name, value⟩ := entry
      simp only [List.map_cons, List.nodup_cons] at distinct
      have others : ∀ slot ∈ slots, ∀ entry ∈ rest, slot.name = entry.1 →
          slot.check entry.2.doc = .ok () :=
        fun slot listed entry member => faultless slot listed entry (List.mem_cons_of_mem _ member)
      rw [docFields, checkEntries]
      cases found : slots.find? fun slot => slot.name == name with
      | none =>
          simp only [isBroken_doc, Bool.false_eq_true, if_false]
          exact inductionHypothesis others distinct.2 fun entry member =>
            fresh entry (List.mem_cons_of_mem _ member)
      | some slot =>
          have named : slot.name = name := by simpa using List.find?_some found
          have good := faultless slot (List.mem_of_find?_eq_some found) (name, value)
            List.mem_cons_self named
          have unseen : seen.contains name = false := fresh (name, value) List.mem_cons_self
          simp only [unseen, content_doc, good, Bool.false_eq_true, if_false]
          refine inductionHypothesis others distinct.2 fun entry member => ?_
          have other : entry.1 ≠ name := fun same =>
            distinct.1 (same ▸ List.mem_map_of_mem member)
          have unseenToo := fresh entry (List.mem_cons_of_mem _ member)
          simp_all

/-! ## Records whose checks agree with their values -/

/-- A field of which the value was built has no fault. -/
class HonestRecord {α : Type} (r : Record α) : Prop where
  check_of_build {given : Given} {value : α} : r.build given = .ok value →
    ∀ slot ∈ r.slots, ∀ doc, given.entries.lookup slot.name = some doc → slot.check doc = .ok ()

section

variable {α β : Type}

theorem build_map {f : α → β} {r : Record α} {given : Given} {value : α}
    (built : r.build given = .ok value) : (f <$> r).build given = .ok (f value) := by
  simp only [Functor.map, built]

theorem build_seq {f : Record (α → β)} {r : Unit → Record α} {given : Given} {function : α → β}
    {value : α} (before : f.build given = .ok function) (built : (r ()).build given = .ok value) :
    (Seq.seq f r).build given = .ok (function value) := by
  simp only [Seq.seq, before, built]

theorem of_build_map {f : α → β} {r : Record α} {given : Given} {value : β}
    (built : (f <$> r).build given = .ok value) :
    ∃ part, r.build given = .ok part ∧ f part = value := by
  simp only [Functor.map] at built
  split at built
  · rename_i part inner
    exact ⟨part, inner, Except.ok.inj built⟩
  · cases built

theorem of_build_seq {f : Record (α → β)} {r : Unit → Record α} {given : Given} {value : β}
    (built : (Seq.seq f r).build given = .ok value) :
    ∃ function part, f.build given = .ok function ∧ (r ()).build given = .ok part ∧
      function part = value := by
  simp only [Seq.seq] at built
  split at built
  · cases built
  · rename_i function before
    split at built
    · rename_i part inner
      exact ⟨function, part, before, inner, Except.ok.inj built⟩
    · cases built

instance (name : String) (read : Reader α) (absent : Given → Except Fault α) :
    HonestRecord (fieldOf name read absent) where
  check_of_build {given value} built slot listed doc found := by
    cases List.mem_singleton.mp listed
    simp only [fieldOf] at built found
    rw [found] at built
    show check read doc = .ok ()
    rw [check, show read doc = .ok value from built]

instance [Wire α] (name : String) : HonestRecord (required (α := α) name) :=
  inferInstanceAs (HonestRecord (fieldOf ..))

instance [Wire α] (name : String) : HonestRecord (optional (α := α) name) :=
  inferInstanceAs (HonestRecord (fieldOf ..))

instance (name : String) (read : Reader α) (value : α) :
    HonestRecord (defaulted name read value) :=
  inferInstanceAs (HonestRecord (fieldOf ..))

instance [Wire α] (name : String) : HonestRecord (omittable (α := α) name) :=
  inferInstanceAs (HonestRecord (fieldOf ..))

instance (f : α → β) (r : Record α) [honest : HonestRecord r] : HonestRecord (f <$> r) where
  check_of_build built slot listed := by
    obtain ⟨_, inner, _⟩ := of_build_map built
    exact honest.check_of_build inner slot listed

instance (f : Record (α → β)) (r : Unit → Record α) [honest : HonestRecord f]
    [honestPart : HonestRecord (r ())] : HonestRecord (Seq.seq f r) where
  check_of_build built slot listed := by
    obtain ⟨_, _, before, inner, _⟩ := of_build_seq built
    rcases List.mem_append.mp listed with first | second
    · exact honest.check_of_build before slot first
    · exact honestPart.check_of_build inner slot second

/-- What is built of a field comes from the document in its place, or from its absence. -/
theorem of_build_fieldOf {name : String} {read : Reader α} {absent : Given → Except Fault α}
    {given : Given} {value : α} {holds : Doc → Prop} {keeps : α → Prop}
    (parts : ∀ entry ∈ given.entries, holds entry.2)
    (readKeeps : ∀ doc, holds doc → read doc = .ok value → keeps value)
    (absentKeeps : absent given = .ok value → keeps value)
    (built : (fieldOf name read absent).build given = .ok value) : keeps value := by
  simp only [fieldOf] at built
  split at built
  · rename_i doc found
    obtain ⟨before, after, split, _⟩ := List.lookup_eq_some_iff.mp found
    exact readKeeps doc (parts (name, doc) (by simp [split])) built
  · exact absentKeeps built

theorem read_of_readOption {read : Reader α} {doc : Doc} {value : α}
    (ok : readOption read doc = .ok (some value)) : read doc = .ok value := by
  rw [readOption.eq_def] at ok
  split at ok
  · cases ok
  · split at ok
    · rename_i inner
      cases ok
      exact inner
    · cases ok

theorem of_build_omittable [Wire α] {name : String} {given : Given} {value : Option α}
    {holds : Doc → Prop} {keeps : α → Prop} (parts : ∀ entry ∈ given.entries, holds entry.2)
    (readKeeps : ∀ doc x, holds doc → Wire.read doc = .ok x → keeps x)
    (built : (omittable name).build given = .ok value) : ∀ x ∈ value, keeps x := by
  refine @of_build_fieldOf _ _ _ _ _ _ _ (fun value => ∀ x ∈ value, keeps x) parts ?_ ?_ built
  · intro doc fits read x present
    rw [Option.mem_def.mp present] at read
    exact readKeeps doc x fits (read_of_readOption read)
  · rintro ⟨⟩
    exact nofun

/-- A record that was read was built of parts of the document. -/
theorem exists_given_of_read {r : Record α} {doc : Doc} {value : α} {holds : Doc → Prop}
    (entriesHold : ∀ entries, doc = .obj entries → ∀ entry ∈ entries, holds entry.2)
    (itemsHold : ∀ items, doc = .arr items → ∀ item ∈ items, holds item)
    (read : r.read doc = .ok value) :
    ∃ given : Given, (∀ entry ∈ given.entries, holds entry.2) ∧ r.build given = .ok value := by
  cases doc with
  | obj entries =>
      simp only [Record.read] at read
      split at read
      · cases read
      · refine ⟨_, ?_, read⟩
        intro entry member
        obtain ⟨original, listed, named⟩ := List.mem_filterMap.mp member
        obtain ⟨name, _, rfl⟩ := Option.map_eq_some_iff.mp named
        exact entriesHold entries rfl original listed
  | arr items =>
      simp only [Record.read] at read
      split at read
      · cases read
      · split at read
        · cases read
        · rename_i built
          split at read
          · cases read
          · cases read
            refine ⟨_, ?_, built⟩
            exact fun entry member => itemsHold items rfl entry.2 (List.of_mem_zip member).2
  | _ => cases read

/-! ## Reading what was written -/

/-- What the reader of a record is given when the record was written with these fields. -/
def written (fields : List (String × Option Json)) : Given :=
  ⟨(present fields).map fun field => (field.1, field.2.doc), false⟩

theorem namedEntries_docFields (fields : List (String × Json)) :
    namedEntries (docFields fields) = fields.map fun field => (field.1, field.2.doc) := by
  rw [docFields_eq_map, namedEntries, List.filterMap_map]
  exact congrFun List.filterMap_eq_map' fields

theorem lookup_map_doc (fields : List (String × Json)) (name : String) :
    (fields.map fun field => (field.1, field.2.doc)).lookup name = (fields.lookup name).map doc := by
  induction fields with
  | nil => rfl
  | cons field rest inductionHypothesis =>
      rw [List.map_cons, List.lookup_cons, List.lookup_cons, inductionHypothesis]
      cases name == field.1 <;> rfl

theorem lookup_written {fields : List (String × Option Json)}
    (distinct : (fields.map Prod.fst).Nodup) (name : String) :
    (written fields).entries.lookup name = (fields.lookup name).join.map doc := by
  rw [written, lookup_map_doc]
  exact congrArg (Option.map doc) (lookup_record distinct name)

/-- A record is read again when its value can be built from what was written. -/
theorem read_record {r : Record α} [honest : HonestRecord r]
    {fields : List (String × Option Json)} (distinct : (fields.map Prod.fst).Nodup) {value : α}
    (built : (fields.map Prod.fst).Nodup → r.build (written fields) = .ok value) :
    r.read (record fields).doc = .ok value := by
  have faultless : checkEntries r.slots [] (docFields (present fields)) = .ok () := by
    refine checkEntries_docFields ?_ (nodup_present distinct) (fun _ _ => rfl)
    intro slot listed entry member named
    refine honest.check_of_build (built distinct) slot listed entry.2.doc ?_
    rw [written, lookup_map_doc, named, lookup_of_mem (nodup_present distinct) member]
    rfl
  rw [record_eq, doc, Record.read, faultless]
  show r.build ⟨namedEntries (docFields (present fields)), false⟩ = .ok value
  rw [namedEntries_docFields]
  exact built distinct

end

end Caretaker.Json
