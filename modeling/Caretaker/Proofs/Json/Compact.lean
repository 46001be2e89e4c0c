import Caretaker.Json.Printer
import Caretaker.Proofs.Json.Integers

/-!
# The tokens of compact text

Compact text has no blanks, so the tokens of a value are the tokens of its parts with a
mark before, between and after them.
-/

namespace Caretaker.Json

open Text

/-- Every number of the value is read back from its text: it is an integer of 64 bits, or
a double of which this is known. -/
inductive Readable : Json → Prop where
  | null : Readable .null
  | bool {b : Bool} : Readable (.bool b)
  | int {n : Int} (least : -2 ^ 63 ≤ n) (most : n < 2 ^ 64) : Readable (.num (.int n))
  | double {x : Float} (reads : (Number.float x).ReadsBack) : Readable (.num (.float x))
  | str {s : String} : Readable (.str s)
  | arr {items : List Json} (inside : ∀ item ∈ items, Readable item) : Readable (.arr items)
  | obj {fields : List (String × Json)} (inside : ∀ field ∈ fields, Readable field.2) :
      Readable (.obj fields)

mutual

/-- The tokens of a value. -/
def tokensOf : Json → List Token
  | .null => [.null]
  | .bool b => [.bool b]
  | .num n => [.num n]
  | .str s => [.str s]
  | .arr items => .openArray :: (itemTokens items ++ [.closeArray])
  | .obj fields => .openObject :: (fieldTokens fields ++ [.closeObject])

/-- The tokens of the items of an array. -/
def itemTokens : List Json → List Token
  | [] => []
  | [item] => tokensOf item
  | item :: rest => tokensOf item ++ .comma :: itemTokens rest

/-- The tokens of the fields of an object. -/
def fieldTokens : List (String × Json) → List Token
  | [] => []
  | [(name, value)] => .str name :: .colon :: tokensOf value
  | (name, value) :: rest => .str name :: .colon :: (tokensOf value ++ .comma :: fieldTokens rest)

end

theorem tokensFrom_mark {mark : String} {token : Token} (b : UInt8) (bytes : bytesOf mark = [b])
    (said : stepIdle b = (.idle, [token])) (rest : List UInt8) :
    tokensFrom .idle (bytesOf mark ++ rest) = token :: tokensFrom .idle rest := by
  rw [bytes, List.singleton_append, tokensFrom_cons]
  simp only [LexState.step, said]
  rfl

theorem tokensFrom_openArray (rest : List UInt8) :
    tokensFrom .idle (bytesOf "[" ++ rest) = .openArray :: tokensFrom .idle rest :=
  tokensFrom_mark 91 (by decide +kernel) rfl rest

theorem tokensFrom_closeArray (rest : List UInt8) :
    tokensFrom .idle (bytesOf "]" ++ rest) = .closeArray :: tokensFrom .idle rest :=
  tokensFrom_mark 93 (by decide +kernel) rfl rest

theorem tokensFrom_openObject (rest : List UInt8) :
    tokensFrom .idle (bytesOf "\x7b" ++ rest) = .openObject :: tokensFrom .idle rest :=
  tokensFrom_mark 123 (by decide +kernel) rfl rest

theorem tokensFrom_closeObject (rest : List UInt8) :
    tokensFrom .idle (bytesOf "\x7d" ++ rest) = .closeObject :: tokensFrom .idle rest :=
  tokensFrom_mark 125 (by decide +kernel) rfl rest

theorem tokensFrom_comma (rest : List UInt8) :
    tokensFrom .idle (bytesOf "," ++ rest) = .comma :: tokensFrom .idle rest :=
  tokensFrom_mark 44 (by decide +kernel) rfl rest

theorem tokensFrom_colon (rest : List UInt8) :
    tokensFrom .idle (bytesOf ":" ++ rest) = .colon :: tokensFrom .idle rest :=
  tokensFrom_mark 58 (by decide +kernel) rfl rest

theorem ends_comma (rest : List UInt8) : Ends (bytesOf "," ++ rest) := by
  rw [show bytesOf "," = [44] by decide +kernel]
  exact ends_cons (.inl rfl) rest

theorem ends_closeArray (rest : List UInt8) : Ends (bytesOf "]" ++ rest) := by
  rw [show bytesOf "]" = [93] by decide +kernel]
  exact ends_cons (.inr (.inl rfl)) rest

theorem ends_closeObject (rest : List UInt8) : Ends (bytesOf "\x7d" ++ rest) := by
  rw [show bytesOf "\x7d" = [125] by decide +kernel]
  exact ends_cons (.inr (.inr rfl)) rest

theorem bytesOf_empty : bytesOf "" = [] := by decide +kernel

mutual

/-- Compact text consists of the tokens of the value. -/
theorem tokensFrom_compact {rest : List UInt8} (ends : Ends rest) :
    ∀ json : Json, Readable json →
      tokensFrom .idle (bytesOf (compact json) ++ rest) = tokensOf json ++ tokensFrom .idle rest
  | .null, _ => tokensFrom_null rest
  | .bool b, _ => tokensFrom_bool b rest
  | .num n, readable => by
      cases readable with
      | int least most =>
          exact tokensFrom_append_of_num ends nofun (Number.readsBack_int least most)
      | double reads => exact tokensFrom_append_of_num ends nofun reads
  | .str s, _ => tokensFrom_quote s rest
  | .arr items, readable => by
      cases readable with
      | arr inside =>
          simp only [compact, tokensOf, bytesOf_append, List.append_assoc, List.cons_append,
            List.nil_append, tokensFrom_openArray,
            tokensFrom_compactItems (ends_closeArray rest) items inside, tokensFrom_closeArray]
  | .obj fields, readable => by
      cases readable with
      | obj inside =>
          simp only [compact, tokensOf, bytesOf_append, List.append_assoc, List.cons_append,
            List.nil_append, tokensFrom_openObject,
            tokensFrom_compactFields (ends_closeObject rest) fields inside,
            tokensFrom_closeObject]

theorem tokensFrom_compactItems {rest : List UInt8} (ends : Ends rest) :
    ∀ items : List Json, (∀ item ∈ items, Readable item) →
      tokensFrom .idle (bytesOf (compactItems items) ++ rest) =
        itemTokens items ++ tokensFrom .idle rest
  | [], _ => by
      rw [compactItems, bytesOf_empty]
      rfl
  | [item], inside => tokensFrom_compact ends item (inside item (by simp))
  | item :: next :: more, inside => by
      obtain ⟨first, later⟩ := List.forall_mem_cons.mp inside
      simp only [compactItems, itemTokens, bytesOf_append, List.append_assoc, List.cons_append,
        tokensFrom_compact (ends_comma _) item first, tokensFrom_comma,
        tokensFrom_compactItems ends (next :: more) later]

theorem tokensFrom_compactFields {rest : List UInt8} (ends : Ends rest) :
    ∀ fields : List (String × Json), (∀ field ∈ fields, Readable field.2) →
      tokensFrom .idle (bytesOf (compactFields fields) ++ rest) =
        fieldTokens fields ++ tokensFrom .idle rest
  | [], _ => by
      rw [compactFields, bytesOf_empty]
      rfl
  | [(name, value)], inside => by
      simp only [compactFields, fieldTokens, bytesOf_append, List.append_assoc, List.cons_append,
        tokensFrom_quote, tokensFrom_colon,
        tokensFrom_compact ends value (inside (name, value) (by simp))]
  | (name, value) :: next :: more, inside => by
      obtain ⟨first, later⟩ := List.forall_mem_cons.mp inside
      simp only [compactFields, fieldTokens, bytesOf_append, List.append_assoc, List.cons_append,
        tokensFrom_quote, tokensFrom_colon, tokensFrom_compact (ends_comma _) value first,
        tokensFrom_comma, tokensFrom_compactFields ends (next :: more) later]

end

/-- The tokens of compact text. -/
theorem tokens_compact {json : Json} (readable : Readable json) :
    tokens (bytesOf (compact json)) = tokensOf json := by
  have read := tokensFrom_compact ends_nil json readable
  rwa [List.append_nil, show tokensFrom .idle [] = [] from rfl, List.append_nil] at read

end Caretaker.Json
