import Caretaker.Json.Document

/-!
# How documents are built

A document is built token by token.  Everything in it is the value of a token, or a
container that was closed, or what is left of a container where the text breaks off.  A
property of documents that is inherited in these three ways is a property of every
document that is read.  It may depend on the number of containers around a document.
-/

namespace Caretaker.Json

/-! ## Entries in order -/

/-- One more entry before the ones that are in order. -/
def precede (later : List (Option String × Doc)) (entry : Option String × Doc) :
    List (Option String × Doc) :=
  if entry.1.isSome && later.any fun other => other.1 == entry.1 then
    (entry.1, .superseded entry.2) :: later
  else entry :: later

theorem inOrder_eq_foldl (reversed : List (Option String × Doc)) :
    inOrder reversed = reversed.foldl precede [] :=
  rfl

/-- What holds of entries, superseded or not, holds of them in order. -/
theorem forall_mem_inOrder {holds : Option String × Doc → Prop}
    (superseded : ∀ {name value}, holds (name, value) → holds (name, .superseded value))
    {reversed : List (Option String × Doc)} (given : ∀ entry ∈ reversed, holds entry) :
    ∀ entry ∈ inOrder reversed, holds entry := by
  suffices step : ∀ {later : List (Option String × Doc)}, (∀ entry ∈ later, holds entry) →
      ∀ entry ∈ reversed.foldl precede later, holds entry from step (by simp)
  induction reversed with
  | nil => exact fun kept => kept
  | cons head rest inductionHypothesis =>
      intro later kept
      obtain ⟨first, others⟩ := List.forall_mem_cons.mp given
      refine inductionHypothesis others ?_
      rw [precede]
      split
      · exact List.forall_mem_cons.mpr ⟨superseded first, kept⟩
      · exact List.forall_mem_cons.mpr ⟨first, kept⟩

/-! ## Inherited properties -/

/-- The parts of a container have the property. -/
def Frame.Keeps (holds : Doc → Prop) : Frame → Prop
  | .arr items => ∀ item ∈ items, holds item
  | .obj entries _ => ∀ entry ∈ entries, holds entry.2

/-- The parts of each open container have the property at their depth. -/
def Keeping (holds : Nat → Doc → Prop) : List Frame → Prop
  | [] => True
  | frame :: outer => frame.Keeps (holds (outer.length + 1)) ∧ Keeping holds outer

/-- A property of documents, at each depth, that comes from the tokens of a text. -/
structure Inherited (holds : Nat → Doc → Prop) (reads : Token → Prop) : Prop where
  scalar {depth : Nat} {token : Token} {doc : Doc} : reads token → token.scalar? = some doc →
    holds depth doc
  array {depth : Nat} {items : List Doc} : (∀ item ∈ items, holds (depth + 1) item) →
    holds depth (closeAt depth (.arr items))
  object {depth : Nat} {entries : List (Option String × Doc)} :
    (∀ entry ∈ entries, holds (depth + 1) entry.2) →
    holds depth (closeAt depth (Doc.ofEntries entries))
  broken {frames : List Frame} {flaw : Flaw} : flaw ≠ .unreadable → Keeping holds frames →
    holds 0 (breakOff frames (.flawed flaw))

/-- The document in the place of a value, or the containers around it, have the property. -/
def KeepingPlaced (holds : Nat → Doc → Prop) (placed : List Frame × Option Doc) : Prop :=
  Keeping holds placed.1 ∧ ∀ doc ∈ placed.2, holds 0 doc

/-- What a token leads to has the property. -/
def Progress.Keeps (holds : Nat → Doc → Prop) : Progress → Prop
  | .open_ frames _ => Keeping holds frames
  | .complete doc | .broken doc => holds 0 doc

namespace Inherited

variable {holds : Nat → Doc → Prop} {reads : Token → Prop} {frames : List Frame}

theorem keepingPlaced_place {value : Doc} (kept : Keeping holds frames)
    (inside : holds frames.length value) : KeepingPlaced holds (place frames value) := by
  cases frames with
  | nil => exact ⟨trivial, fun _ placed => Option.some.inj placed ▸ inside⟩
  | cons frame outer =>
      obtain ⟨parts, outerKept⟩ := kept
      refine ⟨?_, by cases frame <;> exact nofun⟩
      cases frame with
      | arr items => exact ⟨List.forall_mem_cons.mpr ⟨inside, parts⟩, outerKept⟩
      | obj entries name => exact ⟨List.forall_mem_cons.mpr ⟨inside, parts⟩, outerKept⟩

theorem keeps_ofPlaced {placed : List Frame × Option Doc} (kept : KeepingPlaced holds placed) :
    (Progress.ofPlaced placed).Keeps holds := by
  obtain ⟨frames, doc⟩ := placed
  cases doc with
  | none => exact kept.1
  | some doc => exact kept.2 doc rfl

variable (inherited : Inherited holds reads)

include inherited

theorem keepingPlaced_closeFrame (kept : Keeping holds frames) :
    KeepingPlaced holds (closeFrame frames) := by
  cases frames with
  | nil =>
      refine ⟨trivial, fun doc placed => ?_⟩
      cases placed
      exact @broken _ _ inherited [] .broken (by decide) trivial
  | cons frame outer =>
      obtain ⟨parts, outerKept⟩ := kept
      cases frame with
      | arr items =>
          exact keepingPlaced_place outerKept
            (inherited.array fun item member => parts item (List.mem_reverse.mp member))
      | obj entries name => exact keepingPlaced_place outerKept (inherited.object parts)

theorem keeps_startValue {token : Token} (kept : Keeping holds frames) (read : reads token) :
    (startValue frames token).Keeps holds := by
  rw [startValue.eq_def]
  split
  · exact ⟨fun _ member => absurd member List.not_mem_nil, kept⟩
  · exact ⟨fun _ member => absurd member List.not_mem_nil, kept⟩
  · cases scalar : token.scalar? with
    | some doc => exact keeps_ofPlaced (keepingPlaced_place kept (inherited.scalar read scalar))
    | none => exact inherited.broken (by decide) kept

theorem keeps_startName {token : Token} (kept : Keeping holds frames) :
    (startName frames token).Keeps holds := by
  rw [startName.eq_def]
  split
  · exact kept
  · exact kept
  · exact inherited.broken (by split <;> decide) kept

/-- A token passes the property on. -/
theorem keeps_stepToken {expect : Expect} {token : Token} (kept : Keeping holds frames)
    (read : reads token) : (stepToken frames expect token).Keeps holds := by
  rw [stepToken.eq_def]
  repeat' split
  all_goals first
    | exact keeps_ofPlaced (inherited.keepingPlaced_closeFrame kept)
    | exact inherited.keeps_startValue kept read
    | exact inherited.keeps_startName kept
    | exact inherited.broken (by decide) kept
    | exact kept

theorem keeps_build {tokens : List Token} : ∀ {frames : List Frame} {expect : Expect},
    Keeping holds frames → (∀ token ∈ tokens, reads token) →
      holds 0 (build frames expect tokens).1 := by
  induction tokens with
  | nil => exact fun kept _ => inherited.broken (by decide) kept
  | cons token rest inductionHypothesis =>
      intro frames expect kept read
      obtain ⟨now, later⟩ := List.forall_mem_cons.mp read
      have stepped : (stepToken frames expect token).Keeps holds :=
        inherited.keeps_stepToken kept now
      rw [build]
      split
      all_goals
        rename_i progress
        rw [progress] at stepped
      · exact inductionHypothesis stepped later
      · exact stepped
      · exact stepped

/-- Every document that is read has the property. -/
theorem holds_parseDoc {bytes : List UInt8} (read : ∀ token ∈ tokens bytes, reads token) :
    holds 0 (parseDoc bytes).1 :=
  inherited.keeps_build trivial read

end Inherited

end Caretaker.Json
