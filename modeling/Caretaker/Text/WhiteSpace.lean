/-!
# White space

The white space of Unicode, and the two things the service does with it: it trims
names and titles, and it takes a text of nothing but white space for an absent
one.  The separators U+001C to U+001F, the zero-width space and the byte order
mark are ordinary characters here.
-/

namespace Caretaker.Text

/-- The character has the Unicode property White_Space. -/
def isWhiteSpace (c : Char) : Bool :=
  let code := c.toNat
  (9 ≤ code && code ≤ 13) || code == 0x20 || code == 0x85 || code == 0xA0 || code == 0x1680 ||
    (0x2000 ≤ code && code ≤ 0x200A) || code == 0x2028 || code == 0x2029 || code == 0x202F ||
    code == 0x205F || code == 0x3000

/-- The text without the white space it starts with. -/
def trimStart (cs : List Char) : List Char :=
  cs.dropWhile isWhiteSpace

/-- The text without the white space it ends with. -/
def trimEnd (cs : List Char) : List Char :=
  (cs.reverse.dropWhile isWhiteSpace).reverse

/-- The text without white space at either end. -/
def trim (s : String) : String :=
  String.ofList (trimEnd (trimStart s.toList))

/-- The text has no character besides white space. -/
def isBlank (s : String) : Bool :=
  s.toList.all isWhiteSpace

/-- A text is blank exactly when trimming leaves nothing. -/
theorem isBlank_iff_trim_eq_empty (s : String) : isBlank s = true ↔ trim s = "" := by
  have dropWhile_nil : ∀ cs : List Char,
      cs.dropWhile isWhiteSpace = [] ↔ cs.all isWhiteSpace = true := by
    intro cs
    induction cs with
    | nil => simp
    | cons c rest inductionHypothesis =>
        by_cases blank : isWhiteSpace c = true <;> simp_all
  constructor
  · intro blank
    have startNil : trimStart s.toList = [] := (dropWhile_nil s.toList).2 blank
    simp [trim, startNil, trimEnd]
  · intro empty
    have listEmpty : trimEnd (trimStart s.toList) = [] := by
      have := congrArg String.toList empty
      simpa [trim] using this
    have restBlank : (trimStart s.toList).all isWhiteSpace = true := by
      have := (dropWhile_nil (trimStart s.toList).reverse).1 (by simpa [trimEnd] using listEmpty)
      simpa using this
    have split := List.takeWhile_append_dropWhile (p := isWhiteSpace) (l := s.toList)
    unfold isBlank
    rw [← split, List.all_append, Bool.and_eq_true]
    exact ⟨by simp [List.all_takeWhile], restBlank⟩

end Caretaker.Text
