import Caretaker.Json.Printer
import Caretaker.Json.Token
import Caretaker.Proofs.Text.Bytes
import Caretaker.Proofs.Text.Digits

/-!
# Reading tokens back

What is written for a text, a number or a fixed word is read as one token, and the reader
is between two tokens again.  A text says where it ends.  A number does not, so it is
complete only where a value may be followed by what encloses it: no comma and no closing
bracket goes on with a number.
-/

namespace Caretaker.Json

open Text

theorem tokensFrom_cons (state : LexState) (b : UInt8) (rest : List UInt8) :
    tokensFrom state (b :: rest) = (state.step b).2 ++ tokensFrom (state.step b).1 rest :=
  rfl

/-! ## Quoted texts -/

/-- A control character that has no letter of its own is written as a code unit. -/
def isBareControl (c : Char) : Bool :=
  c.toNat < 32 && c.toNat != 8 && c.toNat != 9 && c.toNat != 10 && c.toNat != 12 && c.toNat != 13

/-- What is read of one character inside a quoted text. -/
def piecesOf (c : Char) : List Piece :=
  if isBareControl c then [.unit c.toNat] else (String.utf8EncodeChar c).map .byte

theorem tokensFrom_quoted_byte {b : UInt8} (noQuote : b ≠ 34) (noEscape : b ≠ 92)
    (noControl : ¬ b < 32) (pieces : List Piece) (rest : List UInt8) :
    tokensFrom (.quoted pieces) (b :: rest) = tokensFrom (.quoted (.byte b :: pieces)) rest := by
  simp [tokensFrom_cons, LexState.step, noQuote, noEscape, noControl]

theorem tokensFrom_quoted_bytes {bytes : List UInt8}
    (plain : ∀ b ∈ bytes, b ≠ 34 ∧ b ≠ 92 ∧ ¬ b < 32) (rest : List UInt8) :
    ∀ pieces : List Piece, tokensFrom (.quoted pieces) (bytes ++ rest) =
      tokensFrom (.quoted ((bytes.map .byte).reverse ++ pieces)) rest := by
  induction bytes with
  | nil => exact fun _ => rfl
  | cons b bytes inductionHypothesis =>
      intro pieces
      obtain ⟨⟨noQuote, noEscape, noControl⟩, later⟩ := List.forall_mem_cons.mp plain
      rw [List.cons_append, tokensFrom_quoted_byte noQuote noEscape noControl,
        inductionHypothesis later]
      simp

/-- An escape with a letter of its own. -/
theorem tokensFrom_quoted_escape {letter byte : UInt8} (noUnit : letter ≠ 117)
    (escaped : escapedByte? letter = some byte) (pieces : List Piece) (rest : List UInt8) :
    tokensFrom (.quoted pieces) (92 :: letter :: rest) =
      tokensFrom (.quoted (.byte byte :: pieces)) rest := by
  simp [tokensFrom_cons, LexState.step, noUnit, escaped]

theorem utf8EncodeChar_digitChar {d : Nat} (small : d < 16) :
    String.utf8EncodeChar (digitChar d) = [UInt8.ofNat (digitChar d).toNat] := by
  have ascii : ∀ d < 16, (digitChar d).toNat < 128 := by decide
  exact utf8EncodeChar_of_lt (ascii d small)

theorem hexDigit?_byte {d : Nat} (small : d < 16) :
    hexDigit? (Char.ofNat (UInt8.ofNat (digitChar d).toNat).toNat) = some d := by
  have digits : ∀ d < 16,
      hexDigit? (Char.ofNat (UInt8.ofNat (digitChar d).toNat).toNat) = some d := by decide
  exact digits d small

theorem tokensFrom_unit {b : UInt8} {d : Nat} (digit : hexDigit? (Char.ofNat b.toNat) = some d)
    (pieces : List Piece) (count value : Nat) (rest : List UInt8) :
    tokensFrom (.unit pieces count value) (b :: rest) =
      if count = 3 then tokensFrom (.quoted (.unit (value * 16 + d) :: pieces)) rest
      else tokensFrom (.unit pieces (count + 1) (value * 16 + d)) rest := by
  rw [tokensFrom_cons]
  simp only [LexState.step, digit]
  split <;> rfl

/-- An escape that is written as a code unit. -/
theorem tokensFrom_quoted_unit {n : Nat} (small : n < 256) (pieces : List Piece)
    (rest : List UInt8) :
    tokensFrom (.quoted pieces)
        (92 :: 117 :: 48 :: 48 :: ((fixedDigits 16 2 n).flatMap String.utf8EncodeChar ++ rest)) =
      tokensFrom (.quoted (.unit n :: pieces)) rest := by
  have digits : fixedDigits 16 2 n = [digitChar (n / 16 % 16), digitChar (n % 16)] := rfl
  have high : n / 16 % 16 < 16 := Nat.mod_lt _ (by decide)
  have low : n % 16 < 16 := Nat.mod_lt _ (by decide)
  have zero : hexDigit? (Char.ofNat (48 : UInt8).toNat) = some 0 := by decide
  have value : n / 16 % 16 * 16 + n % 16 = n := by omega
  have opened (more : List UInt8) :
      tokensFrom (.quoted pieces) (92 :: 117 :: more) = tokensFrom (.unit pieces 0 0) more := rfl
  rw [digits, opened, tokensFrom_unit zero, tokensFrom_unit zero]
  simp [utf8EncodeChar_digitChar high, utf8EncodeChar_digitChar low,
    tokensFrom_unit (hexDigit?_byte high), tokensFrom_unit (hexDigit?_byte low), value]

/-- A character that is written as it is. -/
theorem tokensFrom_quoted_plain {c : Char} (noQuote : c ≠ '"') (noEscape : c ≠ '\\')
    (noControl : ¬ c.toNat < 32) (pieces : List Piece) (rest : List UInt8) :
    tokensFrom (.quoted pieces) (String.utf8EncodeChar c ++ rest) =
      tokensFrom (.quoted (((String.utf8EncodeChar c).map .byte).reverse ++ pieces)) rest := by
  refine tokensFrom_quoted_bytes (fun b member => ?_) rest pieces
  by_cases ascii : c.toNat < 128
  · rw [utf8EncodeChar_of_lt ascii, List.mem_singleton] at member
    have value : b.toNat = c.toNat := by
      rw [member, UInt8.toNat_ofNat']
      omega
    refine ⟨fun same => noQuote ?_, fun same => noEscape ?_, fun below => noControl ?_⟩
    · exact Char.toNat_inj.mp (by rw [← value, same]; rfl)
    · exact Char.toNat_inj.mp (by rw [← value, same]; rfl)
    · exact value ▸ below
  · have high := le_of_mem_utf8EncodeChar (Nat.le_of_not_lt ascii) b member
    refine ⟨?_, ?_, fun below => ?_⟩
    · rintro rfl
      exact absurd high (by decide)
    · rintro rfl
      exact absurd high (by decide)
    · have small : b.toNat < 32 := below
      omega

theorem toNat_ne_of_ne {c d : Char} (other : c ≠ d) : c.toNat ≠ d.toNat :=
  fun same => other (Char.toNat_inj.mp same)

theorem eq_ofNat_toNat {c : Char} {n : Nat} (same : c.toNat = n) : c = Char.ofNat n := by
  rw [← same, Char.ofNat_toNat]

/-- What is written for one character is read as the pieces of that character. -/
theorem tokensFrom_quoted_char (c : Char) (pieces : List Piece) (rest : List UInt8) :
    tokensFrom (.quoted pieces) ((escapeChar c).flatMap String.utf8EncodeChar ++ rest) =
      tokensFrom (.quoted ((piecesOf c).reverse ++ pieces)) rest := by
  unfold escapeChar
  split
  · rename_i same
    subst same
    exact tokensFrom_quoted_escape (by decide) (by decide) pieces rest
  rename_i noQuote
  split
  · rename_i same
    subst same
    exact tokensFrom_quoted_escape (by decide) (by decide) pieces rest
  rename_i noEscape
  split
  · rename_i same
    subst same
    exact tokensFrom_quoted_escape (by decide) (by decide) pieces rest
  rename_i noNewline
  split
  · rename_i same
    subst same
    exact tokensFrom_quoted_escape (by decide) (by decide) pieces rest
  rename_i noReturn
  split
  · rename_i same
    subst same
    exact tokensFrom_quoted_escape (by decide) (by decide) pieces rest
  rename_i noTab
  split
  · rename_i same
    cases eq_ofNat_toNat same
    exact tokensFrom_quoted_escape (by decide) (by decide) pieces rest
  rename_i noBackspace
  split
  · rename_i same
    cases eq_ofNat_toNat same
    exact tokensFrom_quoted_escape (by decide) (by decide) pieces rest
  rename_i noFormFeed
  have newline := toNat_ne_of_ne noNewline
  have carriageReturn := toNat_ne_of_ne noReturn
  have tab := toNat_ne_of_ne noTab
  split
  · rename_i control
    have bare : isBareControl c = true := by
      simp_all [isBareControl]
    rw [piecesOf, if_pos bare, List.flatMap_append, List.append_assoc]
    exact tokensFrom_quoted_unit (by omega) pieces rest
  · rename_i noControl
    have plain : isBareControl c = false := by simp [isBareControl, noControl]
    rw [piecesOf, plain, List.flatMap_singleton]
    exact tokensFrom_quoted_plain noQuote noEscape noControl pieces rest

theorem tokensFrom_quoted_chars (cs : List Char) (rest : List UInt8) :
    ∀ pieces : List Piece,
      tokensFrom (.quoted pieces) ((cs.flatMap escapeChar).flatMap String.utf8EncodeChar ++ rest) =
        tokensFrom (.quoted ((cs.flatMap piecesOf).reverse ++ pieces)) rest := by
  induction cs with
  | nil => exact fun _ => rfl
  | cons c cs inductionHypothesis =>
      intro pieces
      rw [List.flatMap_cons, List.flatMap_append, List.append_assoc, tokensFrom_quoted_char,
        inductionHypothesis, List.flatMap_cons, List.reverse_append, List.append_assoc]

/-- A control character that is read as a code unit stands for itself. -/
theorem piecesToBytes?_unit {n : Nat} (small : n < 32) (rest : List Piece) :
    piecesToBytes? (.unit n :: rest) =
      (piecesToBytes? rest).map (String.utf8EncodeChar (Char.ofNat n) ++ ·) := by
  have bytes : (String.singleton (Char.ofNat n)).toUTF8.toList =
      String.utf8EncodeChar (Char.ofNat n) := by
    show bytesOf (String.ofList [Char.ofNat n]) = _
    rw [bytesOf_ofList, List.flatMap_singleton]
  have noHigh : ¬ (0xD800 ≤ n ∧ n < 0xDC00) := by omega
  have noLow : ¬ (0xDC00 ≤ n ∧ n < 0xE000) := by omega
  have noSurrogate : ¬ (0xD800 ≤ n ∧ n < 0xE000) := by omega
  cases rest with
  | nil => simp only [piecesToBytes?, if_neg noSurrogate, bytes]
  | cons piece rest =>
      cases piece with
      | byte b => simp only [piecesToBytes?, if_neg noSurrogate, bytes]
      | unit low => rw [piecesToBytes?, if_neg noHigh, if_neg noLow, bytes]

/-- The pieces of one character give the bytes of that character. -/
theorem piecesToBytes?_piecesOf (c : Char) (rest : List Piece) :
    piecesToBytes? (piecesOf c ++ rest) =
      (piecesToBytes? rest).map (String.utf8EncodeChar c ++ ·) := by
  rw [piecesOf]
  split
  · rename_i bare
    have small : c.toNat < 32 := by
      simp [isBareControl] at bare
      omega
    rw [List.singleton_append, piecesToBytes?_unit small, Char.ofNat_toNat]
  · induction String.utf8EncodeChar c with
    | nil => simp
    | cons b bytes inductionHypothesis =>
        rw [List.map_cons, List.cons_append, piecesToBytes?, inductionHypothesis, Option.map_map]
        rfl

theorem piecesToBytes?_flatMap (cs : List Char) :
    piecesToBytes? (cs.flatMap piecesOf) = some (cs.flatMap String.utf8EncodeChar) := by
  induction cs with
  | nil => rfl
  | cons c cs inductionHypothesis =>
      rw [List.flatMap_cons, piecesToBytes?_piecesOf, inductionHypothesis]
      rfl

theorem stringToken_flatMap (s : String) :
    stringToken (s.toList.flatMap piecesOf).reverse = .str s := by
  have bytes : s.toList.flatMap String.utf8EncodeChar = bytesOf s := by
    rw [← bytesOf_ofList, String.ofList_toList]
  rw [stringToken, List.reverse_reverse, piecesToBytes?_flatMap, Option.bind_some, bytes,
    fromUTF8?_bytesOf]

/-- A quoted text is read as that text, whatever follows it. -/
theorem tokensFrom_quote (s : String) (rest : List UInt8) :
    tokensFrom .idle (bytesOf (quote s) ++ rest) = .str s :: tokensFrom .idle rest := by
  have closed (pieces : List Piece) : tokensFrom (.quoted pieces) (34 :: rest) =
      stringToken pieces :: tokensFrom .idle rest := rfl
  have opened (more : List UInt8) : tokensFrom .idle (34 :: more) = tokensFrom (.quoted []) more :=
    rfl
  have written : bytesOf (quote s) ++ rest =
      34 :: ((s.toList.flatMap escapeChar).flatMap String.utf8EncodeChar ++ 34 :: rest) := by
    rw [quote, bytesOf_ofList]
    simp [String.utf8EncodeChar]
  rw [written, opened, tokensFrom_quoted_chars, List.append_nil, closed, stringToken_flatMap]

/-! ## Numbers -/

/-- The text of the number is one token, and that token is the number. -/
def Number.ReadsBack (n : Number) : Prop :=
  tokens (bytesOf n.text) = [.num n]

/-- The text ends here, or what encloses a value goes on. -/
def Ends (rest : List UInt8) : Prop :=
  ∀ b ∈ rest.head?, b = 44 ∨ b = 93 ∨ b = 125

theorem ends_nil : Ends [] := by
  simp [Ends]

theorem ends_cons {b : UInt8} (mark : b = 44 ∨ b = 93 ∨ b = 125) (rest : List UInt8) :
    Ends (b :: rest) := by
  simpa [Ends] using mark

/-- An automaton that is stuck has said so. -/
def SaysSo (result : LexState × List Token) : Prop :=
  result.1 = .stuck → .broken ∈ result.2

theorem saysSo_stuck : SaysSo (.stuck, [.broken]) :=
  fun _ => List.mem_singleton_self _

theorem saysSo_stepWord (bytes : List UInt8) : SaysSo (stepWord bytes) := by
  unfold stepWord
  repeat' split
  all_goals first | exact saysSo_stuck | exact nofun

theorem saysSo_stepIdle (b : UInt8) : SaysSo (stepIdle b) := by
  unfold stepIdle
  repeat' refine iteInduction (motive := SaysSo) (fun _ => ?_) (fun _ => ?_)
  all_goals first | exact saysSo_stepWord _ | exact nofun

theorem saysSo_step {state : LexState} (going : state ≠ .stuck) (b : UInt8) :
    SaysSo (state.step b) := by
  cases state with
  | idle => exact saysSo_stepIdle b
  | number at_ bytes =>
      simp only [LexState.step]
      split
      · exact nofun
      · split
        · exact fun stuck => List.mem_cons_of_mem _ (saysSo_stepIdle b stuck)
        · exact saysSo_stuck
  | word bytes => exact saysSo_stepWord _
  | stuck => exact absurd rfl going
  | _ =>
      simp only [LexState.step]
      repeat' split
      all_goals first | exact saysSo_stuck | exact nofun

/-- An automaton without a token to say waits for the next one. -/
theorem tokensFrom_append_of_nil {bytes : List UInt8} (rest : List UInt8) :
    ∀ {state : LexState}, state ≠ .stuck → tokensFrom state bytes = [] →
      tokensFrom state (bytes ++ rest) = tokensFrom .idle rest := by
  induction bytes with
  | nil =>
      intro state going finished
      cases state with
      | idle => rfl
      | stuck => exact absurd rfl going
      | number at_ bytes =>
          simp only [tokensFrom, LexState.finish] at finished
          split at finished <;> cases finished
      | _ => cases finished
  | cons b bytes inductionHypothesis =>
      intro state going finished
      rw [tokensFrom_cons] at finished
      obtain ⟨now, later⟩ := List.append_eq_nil_iff.mp finished
      have goingOn : (state.step b).1 ≠ .stuck := fun stuck => by
        have said := saysSo_step going b stuck
        rw [now] at said
        cases said
      rw [List.cons_append, tokensFrom_cons, now, inductionHypothesis goingOn later]
      rfl

theorem next_of_ends {b : UInt8} (mark : b = 44 ∨ b = 93 ∨ b = 125) (state : NumberState) :
    state.next b = none ∧ state.accepts (some b) = state.accepts none := by
  rcases mark with rfl | rfl | rfl <;> cases state <;> decide

theorem tokensFrom_number_ends {at_ : NumberState} {bytes rest : List UInt8} {n : Number}
    (ends : Ends rest) (read : tokensFrom (.number at_ bytes) [] = [.num n]) :
    tokensFrom (.number at_ bytes) rest = .num n :: tokensFrom .idle rest := by
  cases rest with
  | nil => exact read
  | cons b rest =>
      obtain ⟨noNext, accepts⟩ := next_of_ends (ends b rfl) at_
      simp only [tokensFrom, LexState.finish] at read
      split at read
      · rename_i accepted
        rw [accepted] at accepts
        rw [tokensFrom_cons, tokensFrom_cons]
        simp only [LexState.step, noNext, accepts, if_true, List.cons_append]
        rw [List.singleton_inj.mp read]
      · cases read

/-- A number is complete where what encloses it goes on. -/
theorem tokensFrom_append_of_num {bytes : List UInt8} {n : Number} {rest : List UInt8}
    (ends : Ends rest) : ∀ {state : LexState}, state ≠ .stuck → tokensFrom state bytes = [.num n] →
      tokensFrom state (bytes ++ rest) = .num n :: tokensFrom .idle rest := by
  induction bytes with
  | nil =>
      intro state going read
      cases state with
      | number at_ bytes => exact tokensFrom_number_ends ends read
      | _ => cases read
  | cons b bytes inductionHypothesis =>
      intro state going read
      rw [tokensFrom_cons] at read
      rw [List.cons_append, tokensFrom_cons]
      have goingOn : (state.step b).1 ≠ .stuck := fun stuck => by
        have said := List.mem_append_left (tokensFrom (state.step b).1 bytes)
          (saysSo_step going b stuck)
        rw [read] at said
        simp at said
      rcases List.append_eq_singleton_iff.mp read with ⟨now, later⟩ | ⟨now, later⟩
      · rw [now, inductionHypothesis goingOn later]
        rfl
      · rw [now, tokensFrom_append_of_nil rest goingOn later]
        rfl

/-! ## Fixed words -/

theorem bytesOf_null : bytesOf "null" = [110, 117, 108, 108] := by decide +kernel

theorem bytesOf_true : bytesOf "true" = [116, 114, 117, 101] := by decide +kernel

theorem bytesOf_false : bytesOf "false" = [102, 97, 108, 115, 101] := by decide +kernel

theorem words_eq : words = [([110, 117, 108, 108], .null), ([116, 114, 117, 101], .bool true),
    ([102, 97, 108, 115, 101], .bool false)] := by
  rw [← bytesOf_null, ← bytesOf_true, ← bytesOf_false]
  rfl

theorem tokensFrom_null (rest : List UInt8) :
    tokensFrom .idle (bytesOf "null" ++ rest) = .null :: tokensFrom .idle rest := by
  rw [bytesOf_null]
  simp [tokensFrom_cons, LexState.step, stepIdle, stepWord, words_eq]

theorem tokensFrom_bool (b : Bool) (rest : List UInt8) :
    tokensFrom .idle (bytesOf (compact (.bool b)) ++ rest) = .bool b :: tokensFrom .idle rest := by
  cases b
  · rw [compact, bytesOf_false]
    simp [tokensFrom_cons, LexState.step, stepIdle, stepWord, words_eq]
  · rw [compact, bytesOf_true]
    simp [tokensFrom_cons, LexState.step, stepIdle, stepWord, words_eq]

end Caretaker.Json
