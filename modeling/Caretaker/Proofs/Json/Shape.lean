import Caretaker.Proofs.Json.Building

/-!
# The shape of JSON values

A text can hold a value if no more than 127 containers enclose anything in it and no object
has a name twice.  All that is read from a text has this shape: a container that is too
deep has no value, and of several entries with one name only the last one counts.
-/

namespace Caretaker.Json

/-- No more than `room` containers enclose anything in the value, and the names in each
object are distinct. -/
inductive Shaped : Nat → Json → Prop where
  | null {room : Nat} : Shaped room .null
  | bool {room : Nat} {b : Bool} : Shaped room (.bool b)
  | num {room : Nat} {n : Number} : Shaped room (.num n)
  | str {room : Nat} {s : String} : Shaped room (.str s)
  | arr {room : Nat} {items : List Json} (inside : ∀ item ∈ items, Shaped room item) :
      Shaped (room + 1) (.arr items)
  | obj {room : Nat} {fields : List (String × Json)} (distinct : (fields.map Prod.fst).Nodup)
      (inside : ∀ field ∈ fields, Shaped room field.2) : Shaped (room + 1) (.obj fields)

/-- The names of the entries that count. -/
def countedNames (entries : List (Option String × Doc)) : List String :=
  (entries.filter fun entry => !entry.2.isSuperseded).filterMap Prod.fst

/-- The value of the document, if it has one, is shaped for this room.  Where there is no
room left, a container has no value because the text breaks off in it. -/
inductive Doc.Fits : Nat → Doc → Prop where
  | null {room : Nat} : Fits room .null
  | bool {room : Nat} {b : Bool} : Fits room (.bool b)
  | num {room : Nat} {n : Number} : Fits room (.num n)
  | str {room : Nat} {s : String} : Fits room (.str s)
  | arr {room : Nat} {items : List Doc} (inside : ∀ item ∈ items, Fits room item) :
      Fits (room + 1) (.arr items)
  | obj {room : Nat} {entries : List (Option String × Doc)}
      (distinct : (countedNames entries).Nodup) (inside : ∀ entry ∈ entries, Fits room entry.2) :
      Fits (room + 1) (.obj entries)
  | superseded {room : Nat} {value : Doc} (inside : Fits room value) :
      Fits room (.superseded value)
  | flawed {room : Nat} {flaw : Flaw} : Fits room (.flawed flaw)
  | broken {doc : Doc} (broken : doc.isBroken = true) : Fits 0 doc

theorem Doc.Fits.items {room : Nat} {items : List Doc} (fits : (Doc.arr items).Fits (room + 1)) :
    ∀ item ∈ items, item.Fits room := by
  cases fits with
  | arr inside => exact inside

theorem Doc.Fits.entries {room : Nat} {entries : List (Option String × Doc)}
    (fits : (Doc.obj entries).Fits (room + 1)) : ∀ entry ∈ entries, entry.2.Fits room := by
  cases fits with
  | obj _ inside => exact inside

/-! ## Documents with a value -/

theorem anyBroken_of_mem {items : List Doc} {item : Doc} (member : item ∈ items)
    (broken : item.isBroken = true) : Doc.anyBroken items = true := by
  induction items with
  | nil => cases member
  | cons head rest inductionHypothesis =>
      rw [Doc.anyBroken, Bool.or_eq_true]
      rcases List.mem_cons.mp member with rfl | later
      · exact .inl broken
      · exact .inr (inductionHypothesis later)

theorem anyEntryBroken_of_mem {entries : List (Option String × Doc)}
    {entry : Option String × Doc} (member : entry ∈ entries) (broken : entry.2.isBroken = true) :
    Doc.anyEntryBroken entries = true := by
  induction entries with
  | nil => cases member
  | cons head rest inductionHypothesis =>
      rw [Doc.anyEntryBroken, Bool.or_eq_true]
      rcases List.mem_cons.mp member with rfl | later
      · exact .inl broken
      · exact .inr (inductionHypothesis later)

theorem jsonItems?_cons {item : Doc} {rest : List Doc} {values : List Json}
    (read : Doc.jsonItems? (item :: rest) = some values) :
    ∃ value others, item.json? = some value ∧ Doc.jsonItems? rest = some others ∧
      values = value :: others := by
  simp only [Doc.jsonItems?] at read
  split at read
  · rename_i value others first later
    exact ⟨value, others, first, later, (Option.some.inj read).symm⟩
  · cases read

theorem jsonFields?_cons {entry : Option String × Doc} {rest : List (Option String × Doc)}
    {fields : List (String × Json)} (read : Doc.jsonFields? (entry :: rest) = some fields) :
    ∃ name value others, entry.1 = some name ∧ entry.2.json? = some value ∧
      Doc.jsonFields? rest = some others ∧
      fields = if entry.2.isSuperseded then others else (name, value) :: others := by
  obtain ⟨name, doc⟩ := entry
  simp only [Doc.jsonFields?] at read
  split at read
  · rename_i name value others first later
    exact ⟨name, value, others, rfl, first, later, (Option.some.inj read).symm⟩
  · cases read

mutual

/-- A document whose text breaks off has no value. -/
theorem isBroken_of_json? : ∀ {doc : Doc} {json : Json}, doc.json? = some json →
    doc.isBroken = false
  | .null, _, _ | .bool _, _, _ | .num _, _, _ | .str _, _, _ => rfl
  | .arr items, _, read => by
      obtain ⟨values, inside, -⟩ := Option.map_eq_some_iff.mp read
      exact anyBroken_of_jsonItems? inside
  | .obj entries, _, read => by
      obtain ⟨fields, inside, -⟩ := Option.map_eq_some_iff.mp read
      exact anyEntryBroken_of_jsonFields? inside
  | .superseded value, _, read => @isBroken_of_json? value _ read

theorem anyBroken_of_jsonItems? : ∀ {items : List Doc} {values : List Json},
    Doc.jsonItems? items = some values → Doc.anyBroken items = false
  | [], _, _ => rfl
  | item :: rest, _, read => by
      obtain ⟨_, _, first, later, -⟩ := jsonItems?_cons read
      rw [Doc.anyBroken, isBroken_of_json? first, anyBroken_of_jsonItems? later]
      rfl

theorem anyEntryBroken_of_jsonFields? : ∀ {entries : List (Option String × Doc)}
    {fields : List (String × Json)}, Doc.jsonFields? entries = some fields →
      Doc.anyEntryBroken entries = false
  | [], _, _ => rfl
  | (_, value) :: rest, _, read => by
      obtain ⟨_, _, _, _, first, later, -⟩ := jsonFields?_cons read
      rw [Doc.anyEntryBroken, isBroken_of_json? first, anyEntryBroken_of_jsonFields? later]
      rfl

end

/-- Each value comes from an item. -/
theorem exists_item_of_mem {items : List Doc} : ∀ {values : List Json},
    Doc.jsonItems? items = some values →
      ∀ value ∈ values, ∃ item ∈ items, item.json? = some value := by
  induction items with
  | nil =>
      intro values read value member
      cases read
      cases member
  | cons item rest inductionHypothesis =>
      intro values read value member
      obtain ⟨first, others, readFirst, readOthers, rfl⟩ := jsonItems?_cons read
      rcases List.mem_cons.mp member with rfl | later
      · exact ⟨item, List.mem_cons_self, readFirst⟩
      · obtain ⟨source, listed, readSource⟩ := inductionHypothesis readOthers value later
        exact ⟨source, List.mem_cons_of_mem _ listed, readSource⟩

/-- Each field comes from an entry. -/
theorem exists_entry_of_mem {entries : List (Option String × Doc)} :
    ∀ {fields : List (String × Json)}, Doc.jsonFields? entries = some fields →
      ∀ field ∈ fields, ∃ entry ∈ entries, entry.2.json? = some field.2 := by
  induction entries with
  | nil =>
      intro fields read field member
      cases read
      cases member
  | cons entry rest inductionHypothesis =>
      intro fields read field member
      obtain ⟨name, value, others, _, readValue, readOthers, rfl⟩ := jsonFields?_cons read
      have fromRest (later : field ∈ others) :
          ∃ source ∈ entry :: rest, source.2.json? = some field.2 := by
        obtain ⟨source, listed, readSource⟩ := inductionHypothesis readOthers field later
        exact ⟨source, List.mem_cons_of_mem _ listed, readSource⟩
      split at member
      · exact fromRest member
      · rcases List.mem_cons.mp member with rfl | later
        · exact ⟨entry, List.mem_cons_self, readValue⟩
        · exact fromRest later

/-- The fields have the names that count. -/
theorem names_jsonFields? {entries : List (Option String × Doc)} :
    ∀ {fields : List (String × Json)}, Doc.jsonFields? entries = some fields →
      fields.map Prod.fst = countedNames entries := by
  induction entries with
  | nil =>
      intro fields read
      cases read
      rfl
  | cons entry rest inductionHypothesis =>
      intro fields read
      obtain ⟨name, value, others, named, _, readOthers, rfl⟩ := jsonFields?_cons read
      have names := inductionHypothesis readOthers
      cases counts : entry.2.isSuperseded <;> simp [countedNames, counts, named, names]

/-- The value of a document that fits is shaped. -/
theorem Doc.Fits.shaped {room : Nat} {doc : Doc} (fits : doc.Fits room) :
    ∀ {json : Json}, doc.json? = some json → Shaped room json := by
  induction fits with
  | null =>
      rintro json ⟨⟩
      exact .null
  | bool =>
      rintro json ⟨⟩
      exact .bool
  | num =>
      rintro json ⟨⟩
      exact .num
  | str =>
      rintro json ⟨⟩
      exact .str
  | arr _ inductionHypothesis =>
      intro json read
      obtain ⟨values, inside, rfl⟩ := Option.map_eq_some_iff.mp read
      refine .arr fun value member => ?_
      obtain ⟨item, listed, readItem⟩ := exists_item_of_mem inside value member
      exact inductionHypothesis item listed readItem
  | obj distinct _ inductionHypothesis =>
      intro json read
      obtain ⟨fields, inside, rfl⟩ := Option.map_eq_some_iff.mp read
      refine .obj (names_jsonFields? inside ▸ distinct) fun field member => ?_
      obtain ⟨entry, listed, readEntry⟩ := exists_entry_of_mem inside field member
      exact inductionHypothesis entry listed readEntry
  | superseded _ inductionHypothesis => exact inductionHypothesis
  | flawed => exact nofun
  | broken broken =>
      intro json read
      rw [isBroken_of_json? read] at broken
      cases broken

/-! ## Documents that are read -/

theorem mem_foldl_precede {entry : Option String × Doc} (reversed : List (Option String × Doc)) :
    ∀ {later : List (Option String × Doc)}, entry ∈ later → entry ∈ reversed.foldl precede later := by
  induction reversed with
  | nil => exact fun member => member
  | cons head rest inductionHypothesis =>
      intro later member
      refine inductionHypothesis ?_
      rw [precede]
      split <;> exact List.mem_cons_of_mem _ member

/-- The last entry of a text stays as it is. -/
theorem mem_inOrder_cons (entry : Option String × Doc) (before : List (Option String × Doc)) :
    entry ∈ inOrder (entry :: before) := by
  rw [inOrder_eq_foldl]
  exact mem_foldl_precede before (by simp [precede])

/-- In order, no name counts twice. -/
theorem nodup_countedNames_inOrder (reversed : List (Option String × Doc)) :
    (countedNames (inOrder reversed)).Nodup := by
  suffices step : ∀ {later : List (Option String × Doc)}, (countedNames later).Nodup →
      (countedNames (reversed.foldl precede later)).Nodup from step .nil
  induction reversed with
  | nil => exact fun distinct => distinct
  | cons head rest inductionHypothesis =>
      intro later distinct
      refine inductionHypothesis ?_
      obtain ⟨name, value⟩ := head
      rw [precede]
      split
      · exact distinct
      · rename_i fresh
        cases counts : value.isSuperseded with
        | true => simpa [countedNames, counts] using distinct
        | false =>
            cases name with
            | none => simpa [countedNames, counts] using distinct
            | some name =>
                have absent : name ∉ countedNames later := by
                  intro member
                  obtain ⟨other, kept, named⟩ := List.mem_filterMap.mp member
                  refine fresh ?_
                  simp only [Option.isSome_some, Bool.true_and, List.any_eq_true, beq_iff_eq]
                  exact ⟨other, (List.mem_filter.mp kept).1, named⟩
                have listed : countedNames ((some name, value) :: later) =
                    name :: countedNames later := by
                  simp [countedNames, counts]
                rw [listed]
                exact List.nodup_cons.mpr ⟨absent, distinct⟩

theorem fits_ofEntries {room : Nat} {entries : List (Option String × Doc)}
    (inside : ∀ entry ∈ entries, entry.2.Fits room) : (Doc.ofEntries entries).Fits (room + 1) :=
  .obj (nodup_countedNames_inOrder entries) (forall_mem_inOrder .superseded inside)

theorem fits_closeAt {depth : Nat} {container : Doc}
    (fits : container.Fits (maxDepth - (depth + 1) + 1)) :
    (closeAt depth container).Fits (maxDepth - depth) := by
  rw [closeAt]
  split
  · exact .flawed
  · rename_i within
    rwa [show maxDepth - (depth + 1) + 1 = maxDepth - depth by omega] at fits

/-- A container in which the text breaks off fits in its place. -/
theorem fits_of_broken {depth : Nat} {container : Doc} (broken : container.isBroken = true)
    (fits : container.Fits (maxDepth - (depth + 1) + 1)) : container.Fits (maxDepth - depth) := by
  by_cases within : depth < maxDepth
  · rwa [show maxDepth - (depth + 1) + 1 = maxDepth - depth by omega] at fits
  · rw [show maxDepth - depth = 0 by omega]
    exact .broken broken

theorem fits_breakOff {frames : List Frame} : ∀ {inner : Doc},
    Keeping (fun depth doc => doc.Fits (maxDepth - depth)) frames →
    inner.Fits (maxDepth - frames.length) → inner.isBroken = true →
      (breakOff frames inner).Fits maxDepth := by
  induction frames with
  | nil => exact fun _ fits _ => fits
  | cons frame outer inductionHypothesis =>
      intro inner kept fits broken
      obtain ⟨parts, outerKept⟩ := kept
      cases frame with
      | arr items =>
          have breaks : (Doc.arr (inner :: items).reverse).isBroken = true :=
            anyBroken_of_mem (List.mem_reverse.mpr List.mem_cons_self) broken
          refine inductionHypothesis outerKept (fits_of_broken breaks (.arr ?_)) breaks
          intro item member
          exact List.forall_mem_cons.mpr ⟨fits, parts⟩ item (List.mem_reverse.mp member)
      | obj entries name =>
          have breaks : (Doc.ofEntries ((name, inner) :: entries)).isBroken = true :=
            anyEntryBroken_of_mem (mem_inOrder_cons (name, inner) entries) broken
          refine inductionHypothesis outerKept (fits_of_broken breaks (fits_ofEntries ?_)) breaks
          exact List.forall_mem_cons.mpr ⟨fits, parts⟩

theorem fits_scalar {room : Nat} {token : Token} {doc : Doc}
    (scalar : token.scalar? = some doc) : doc.Fits room := by
  cases token <;> cases scalar <;> constructor

/-- Depth and names are looked after while a document is built. -/
theorem inherited_fits :
    Inherited (fun depth doc => doc.Fits (maxDepth - depth)) (fun _ => True) where
  scalar _ scalar := fits_scalar scalar
  array {depth items} fits :=
    fits_closeAt (.arr fits)
  object fits := fits_closeAt (fits_ofEntries fits)
  broken {frames flaw} breaks kept := fits_breakOff kept .flawed (by simpa [Doc.isBroken] using breaks)

/-- Every document that is read fits. -/
theorem fits_parseDoc (bytes : List UInt8) : (parseDoc bytes).1.Fits maxDepth :=
  inherited_fits.holds_parseDoc fun _ _ => trivial

end Caretaker.Json
