import Caretaker.Json.Number

/-!
# JSON values

JSON values with ordered object fields.  A reader of fields takes the first entry
of a name; the values built by reading text have no name twice.  `record` is how
the library writes its own objects: fields in their declared order, an absent
field left out.
-/

namespace Caretaker

/-- A JSON value. -/
inductive Json where
  | null
  | bool (value : Bool)
  | num (value : Json.Number)
  | str (value : String)
  | arr (items : List Json)
  | obj (fields : List (String × Json))

namespace Json

instance : Inhabited Json := ⟨.null⟩

/-- The fields of an object. -/
def fields? : Json → Option (List (String × Json))
  | .obj fields => some fields
  | _ => none

/-- The items of an array. -/
def items? : Json → Option (List Json)
  | .arr items => some items
  | _ => none

/-- The text of a string. -/
def text? : Json → Option String
  | .str value => some value
  | _ => none

/-- The truth value of a boolean. -/
def bool? : Json → Option Bool
  | .bool value => some value
  | _ => none

/-- The field of an object, and `null` where there is none. -/
def field (json : Json) (name : String) : Json :=
  match json with
  | .obj fields => (fields.lookup name).getD .null
  | _ => .null

/-- An integer as JSON. -/
def ofNat (n : Nat) : Json :=
  .num (.int n)

/-- A double as JSON; a double that is not finite has no number. -/
def ofFloat (x : Float) : Json :=
  if x.isFinite then .num (.float x) else .null

/-- A text or `null`. -/
def ofText? (text : Option String) : Json :=
  (text.map .str).getD .null

/-- The object with the fields that are present, in the given order. -/
def record (fields : List (String × Option Json)) : Json :=
  .obj (fields.filterMap fun field => field.2.map fun value => (field.1, value))

/-- Looking up a name in a record whose names are distinct finds its value. -/
theorem lookup_record {fields : List (String × Option Json)}
    (distinct : (fields.map Prod.fst).Nodup) (name : String) :
    (fields.filterMap fun field => field.2.map fun value => (field.1, value)).lookup name =
      (fields.lookup name).join := by
  induction fields with
  | nil => rfl
  | cons head rest inductionHypothesis =>
      obtain ⟨headName, headValue⟩ := head
      simp only [List.map_cons, List.nodup_cons] at distinct
      have rest_eq := inductionHypothesis distinct.2
      by_cases same : name = headName
      · subst same
        have absent : rest.lookup name = none := by
          rw [List.lookup_eq_none_iff]
          intro entry member
          have : name ≠ entry.1 := fun equal =>
            distinct.1 (equal ▸ List.mem_map_of_mem member)
          simpa using this
        cases headValue with
        | none => simp [rest_eq, absent]
        | some value => simp
      · have different : (name == headName) = false := by simpa using same
        cases headValue with
        | none => simp [List.lookup_cons, different, rest_eq]
        | some value => simp [List.lookup_cons, different, rest_eq]

end Json

end Caretaker
