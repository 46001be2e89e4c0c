import Caretaker.Proofs.Decimal.Finite
import Caretaker.Proofs.Json.Building

/-!
# Numbers that are read are finite

A number literal has no value when it lies beyond the largest double, so every number
that is read from a text is finite.  For a product this is looked at directly.  A
quotient is finite because the significand has 64 bits and the power of ten it is divided
by is at least one.
-/

namespace Caretaker.Json

open Decimal

/-! ## Literals -/

theorem isFinite_scale {fuel : Nat} : ∀ {significand : Float} {exponent bound : Int} {x : Float},
    DoubleAtMost bound significand → -1074 ≤ bound → bound + fuel ≤ 971 →
    scale significand exponent fuel = some x → x.isFinite = true := by
  induction fuel with
  | zero =>
      intro significand exponent bound x fits _ _ scaled
      cases scaled
      exact fits.isFinite
  | succ fuel inductionHypothesis =>
      intro significand exponent bound x fits wide room scaled
      simp only [scale] at scaled
      split at scaled
      · rename_i near
        have power := atLeastHalf_powerOfTen near
        split at scaled
        · split at scaled
          · cases scaled
          · rename_i noInfinity
            cases scaled
            exact isFinite_mul fits.isFinite power.isFinite (Bool.eq_false_iff.mpr noInfinity)
        · cases scaled
          exact (doubleAtMost_div wide (by omega) fits power).isFinite
      · split at scaled
        · cases scaled
          exact fits.isFinite
        · split at scaled
          · cases scaled
          · generalize divisor : (1e308 : Float) = power at scaled
            have large : AtLeastHalf power.toModel.unpack := by
              rw [← divisor]
              decide +kernel
            exact inductionHypothesis (doubleAtMost_div wide (by omega) fits large) (by omega)
              (by omega) scaled

theorem isFinite_doubleOf {negative : Bool} {significand : Nat} {exponent : Int} {x : Float}
    (read : doubleOf negative significand exponent = some x) : x.isFinite = true := by
  obtain ⟨magnitude, scaled, signed⟩ := Option.map_eq_some_iff.mp read
  have finite := isFinite_scale (doubleAtMost_toFloat _) (by decide) (by decide) scaled
  cases negative with
  | false => exact signed ▸ finite
  | true => exact signed ▸ isFinite_neg finite

/-- The number has a value that JSON can write. -/
def Number.IsFinite (n : Number) : Prop :=
  n.toFloat.isFinite = true

theorem Number.isFinite_int (value : Int) : (Number.int value).IsFinite := by
  cases value with
  | ofNat n => exact (doubleAtMost_toFloat _).isFinite
  | negSucc n => exact isFinite_neg (doubleAtMost_toFloat _).isFinite

theorem isFinite_of_float {x : Option Float} {n : Number}
    (finite : ∀ y, x = some y → y.isFinite = true) (read : x.map Number.float = some n) :
    n.IsFinite := by
  obtain ⟨y, same, rfl⟩ := Option.map_eq_some_iff.mp read
  exact finite y same

theorem isFinite_signedZero (negative : Bool) :
    (if negative then -0.0 else 0.0 : Float).isFinite = true := by
  cases negative <;> decide +kernel

/-- The number of a literal is finite. -/
theorem Literal.isFinite_number {literal : Literal} {n : Number}
    (read : literal.number? = some n) : n.IsFinite := by
  simp only [Literal.number?] at read
  split at read
  · split at read
    · split at read
      · cases read
        exact isFinite_neg (doubleAtMost_toFloat _).isFinite
      · cases read
        exact Number.isFinite_int _
    · cases read
      exact Number.isFinite_int _
  · split at read
    · exact isFinite_of_float (fun _ => isFinite_doubleOf) read
    · split at read
      · exact isFinite_of_float (fun _ => isFinite_doubleOf) read
      · split at read
        · cases read
          exact isFinite_signedZero literal.negative
        · cases read

/-- The number of a token is finite. -/
def Token.IsFinite : Token → Prop
  | .num n => n.IsFinite
  | _ => True

theorem isFinite_numberToken (reversed : List UInt8) : (numberToken reversed).IsFinite := by
  rw [numberToken]
  split
  · rename_i read
    exact Literal.isFinite_number read
  · trivial

theorem isFinite_stringToken (reversed : List Piece) : (stringToken reversed).IsFinite := by
  rw [stringToken]
  split <;> trivial

/-- What the automaton says at a byte has finite numbers only. -/
def saysFinite (result : LexState × List Token) : Prop :=
  ∀ token ∈ result.2, token.IsFinite

theorem saysFinite_nil (state : LexState) : saysFinite (state, []) :=
  fun _ member => absurd member List.not_mem_nil

theorem saysFinite_singleton {token : Token} (finite : token.IsFinite) (state : LexState) :
    saysFinite (state, [token]) :=
  List.forall_mem_singleton.mpr finite

theorem isFinite_stepWord (bytes : List UInt8) : saysFinite (stepWord bytes) := by
  rw [stepWord]
  split
  · rename_i entry found
    have member := List.mem_of_find?_eq_some found
    simp only [words, List.mem_cons, List.not_mem_nil, or_false] at member
    rcases member with rfl | rfl | rfl <;> exact saysFinite_singleton (by trivial) _
  · split
    · exact saysFinite_nil _
    · exact saysFinite_singleton (by trivial) _

theorem isFinite_stepIdle (b : UInt8) : saysFinite (stepIdle b) := by
  unfold stepIdle
  repeat' refine iteInduction (motive := saysFinite) (fun _ => ?_) (fun _ => ?_)
  all_goals first
    | exact isFinite_stepWord _
    | exact saysFinite_nil _
    | exact saysFinite_singleton (by trivial) _

theorem isFinite_step (state : LexState) (b : UInt8) : saysFinite (state.step b) := by
  cases state with
  | idle => exact isFinite_stepIdle b
  | number at_ bytes =>
      simp only [LexState.step]
      split
      · exact saysFinite_nil _
      · split
        · exact List.forall_mem_cons.mpr ⟨isFinite_numberToken bytes, isFinite_stepIdle b⟩
        · exact saysFinite_singleton (by trivial) _
  | word bytes => exact isFinite_stepWord _
  | quoted pieces =>
      simp only [LexState.step]
      repeat' split
      all_goals first
        | exact saysFinite_nil _
        | exact saysFinite_singleton (isFinite_stringToken pieces) _
        | exact saysFinite_singleton (by trivial) _
  | stuck => exact saysFinite_nil _
  | _ =>
      simp only [LexState.step]
      repeat' split
      all_goals first
        | exact saysFinite_nil _
        | exact saysFinite_singleton (by trivial) _

theorem isFinite_finish (state : LexState) : ∀ token ∈ state.finish, token.IsFinite := by
  cases state with
  | number at_ bytes =>
      simp only [LexState.finish]
      split
      · simpa using isFinite_numberToken bytes
      · simp [Token.IsFinite]
  | _ => simp [LexState.finish, Token.IsFinite]

/-- Every number among the tokens of a text is finite. -/
theorem isFinite_tokensFrom {bytes : List UInt8} :
    ∀ {state : LexState}, ∀ token ∈ tokensFrom state bytes, token.IsFinite := by
  induction bytes with
  | nil => exact isFinite_finish _
  | cons b rest inductionHypothesis =>
      intro state token member
      rcases List.mem_append.mp member with now | later
      · exact isFinite_step state b token now
      · exact inductionHypothesis token later

/-! ## Documents -/

mutual

/-- Every number of the document is finite. -/
def Doc.IsFinite : Doc → Prop
  | .num n => n.IsFinite
  | .arr items => Doc.AllFinite items
  | .obj entries => Doc.AllEntriesFinite entries
  | .superseded value => value.IsFinite
  | .null | .bool _ | .str _ | .flawed _ => True

/-- Every number of the items is finite. -/
def Doc.AllFinite : List Doc → Prop
  | [] => True
  | item :: rest => item.IsFinite ∧ Doc.AllFinite rest

/-- Every number of the entries is finite. -/
def Doc.AllEntriesFinite : List (Option String × Doc) → Prop
  | [] => True
  | (_, value) :: rest => value.IsFinite ∧ Doc.AllEntriesFinite rest

end

theorem Doc.allFinite_iff {items : List Doc} :
    Doc.AllFinite items ↔ ∀ item ∈ items, item.IsFinite := by
  induction items with
  | nil => simp [Doc.AllFinite]
  | cons item rest inductionHypothesis => simp [Doc.AllFinite, inductionHypothesis]

theorem Doc.allEntriesFinite_iff {entries : List (Option String × Doc)} :
    Doc.AllEntriesFinite entries ↔ ∀ entry ∈ entries, entry.2.IsFinite := by
  induction entries with
  | nil => simp [Doc.AllEntriesFinite]
  | cons entry rest inductionHypothesis => simp [Doc.AllEntriesFinite, inductionHypothesis]

theorem isFinite_arr {items : List Doc} :
    (Doc.arr items).IsFinite ↔ ∀ item ∈ items, item.IsFinite := by
  rw [Doc.IsFinite, Doc.allFinite_iff]

theorem isFinite_obj {entries : List (Option String × Doc)} :
    (Doc.obj entries).IsFinite ↔ ∀ entry ∈ entries, entry.2.IsFinite := by
  rw [Doc.IsFinite, Doc.allEntriesFinite_iff]

theorem isFinite_ofEntries {reversed : List (Option String × Doc)}
    (finite : ∀ entry ∈ reversed, entry.2.IsFinite) : (Doc.ofEntries reversed).IsFinite :=
  isFinite_obj.mpr (forall_mem_inOrder (fun inside => inside) finite)

theorem isFinite_closeAt {depth : Nat} {container : Doc} (finite : container.IsFinite) :
    (closeAt depth container).IsFinite := by
  rw [closeAt]
  split
  · trivial
  · exact finite

theorem isFinite_breakOff {frames : List Frame} : ∀ {inner : Doc},
    Keeping (fun _ doc => doc.IsFinite) frames → inner.IsFinite →
      (breakOff frames inner).IsFinite := by
  induction frames with
  | nil => exact fun _ finite => finite
  | cons frame outer inductionHypothesis =>
      intro inner finite inside
      obtain ⟨parts, outerFinite⟩ := finite
      cases frame with
      | arr items =>
          refine inductionHypothesis outerFinite (isFinite_arr.mpr fun item member => ?_)
          exact List.forall_mem_cons.mpr ⟨inside, parts⟩ item (List.mem_reverse.mp member)
      | obj entries name =>
          exact inductionHypothesis outerFinite
            (isFinite_ofEntries (List.forall_mem_cons.mpr ⟨inside, parts⟩))

theorem isFinite_scalar {token : Token} {doc : Doc} (finite : token.IsFinite)
    (scalar : token.scalar? = some doc) : doc.IsFinite := by
  cases token <;> cases scalar <;> trivial

/-- Finite numbers lead to documents with finite numbers. -/
theorem inherited_isFinite : Inherited (fun _ doc => doc.IsFinite) Token.IsFinite where
  scalar := isFinite_scalar
  array finite := isFinite_closeAt (isFinite_arr.mpr finite)
  object finite := isFinite_closeAt (isFinite_ofEntries finite)
  broken _ finite := isFinite_breakOff finite trivial

/-- Every number of a document that was read from a text is finite. -/
theorem isFinite_parseDoc (bytes : List UInt8) : (parseDoc bytes).1.IsFinite :=
  inherited_isFinite.holds_parseDoc fun token member => isFinite_tokensFrom token member

end Caretaker.Json
