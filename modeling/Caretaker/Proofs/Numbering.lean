import Caretaker.Proofs.Execution
import Caretaker.Proofs.Text.Digits
import Caretaker.Proofs.Uncounted

/-!
# Numbering

The numbers of the work orders of a company count up from one.  A number is written in
decimal, and the text tells the number, also where it has more digits than the six that
every number is padded to.

A counter holds the last number that was taken from it.  After the last integer of 64 bits
it holds a real number, which it keeps; from then on taking a number fails.
-/

namespace Caretaker

open Store

/-! ## The texts -/

/-- The text of the number `k`: `WO`, and `k` in decimal with zeros in front of it up to six
digits. -/
def numberText (k : Nat) : String :=
  "WO" ++ String.ofList ((Nat.toDigits 10 k).leftpad 6 '0')

theorem orderNumber_natCast (k : Nat) : orderNumber k = numberText k := by
  simp [orderNumber, numberText, Text.padded_eq_leftpad]

/-- Different numbers have different texts. -/
theorem numberText_injective : Function.Injective numberText := by
  intro j k same
  have digits := String.ofList_injective ((String.append_right_inj "WO").mp same)
  exact Text.leftpad_toDigits_injective 6 digits

example : numberText 7 = "WO000007" ∧ numberText 1234567 = "WO1234567" := by decide

/-! ## The counter of a company -/

/-- What a counter holds when its integers are used up. -/
def Cell.usedUp : Cell :=
  .real (Float.ofInt 9223372036854775808)

/-- The counter of a company, given by its rows, after `n` numbers were taken from it. -/
inductive StandsAt : Nat → List CounterRow → Prop where
  | unused : StandsAt 0 []
  | counting {n : Nat} {row : CounterRow} {rest : List CounterRow} (holds : row.lastValue = .int n)
      (fits : n < 9223372036854775808) : StandsAt n (row :: rest)
  | usedUp {row : CounterRow} {rest : List CounterRow} (holds : row.lastValue = .usedUp) :
      StandsAt 9223372036854775807 (row :: rest)

theorem Cell.successor_usedUp : Cell.usedUp.successor = .usedUp := by
  have same : Float.ofInt 9223372036854775808 + 1.0 = Float.ofInt 9223372036854775808 := rfl
  have wide : decide ((Float.ofInt 9223372036854775808).abs < 9223372036854775808.0) = false := rfl
  rw [usedUp, successor, same, ofMeasured, wide, Bool.and_false]
  rfl

theorem Cell.successor_int {n : Nat} (fits : n < 9223372036854775808) :
    (n + 1 < 9223372036854775808 ∧ (Cell.int n).successor = .int (n + 1 : Nat)) ∨
      (n = 9223372036854775807 ∧ (Cell.int n).successor = .usedUp) := by
  rcases Nat.lt_or_ge (n + 1) 9223372036854775808 with more | last
  · left
    refine ⟨more, ?_⟩
    have inside : Cell.fits (n + 1) = true := by
      rw [Cell.fits, Bool.and_eq_true, decide_eq_true_eq, decide_eq_true_eq]
      omega
    rw [successor, ofWide, if_pos inside]
    rfl
  · right
    obtain rfl : n = 9223372036854775807 := by omega
    exact ⟨rfl, rfl⟩

variable {n : Nat} {rows : List CounterRow}

theorem nextCount_cons (row : CounterRow) (rest : List CounterRow) :
    nextCount (row :: rest) = row.lastValue.successor :=
  rfl

/-- The next content of a counter is the next number, unless the integers are used up. -/
theorem StandsAt.nextCount (stands : StandsAt n rows) :
    (n + 1 < 9223372036854775808 ∧ nextCount rows = .int (n + 1 : Nat)) ∨
      (n = 9223372036854775807 ∧ nextCount rows = .usedUp) := by
  cases stands with
  | unused => exact .inl ⟨by decide, rfl⟩
  | counting holds fits =>
      rw [nextCount_cons, holds]
      exact Cell.successor_int fits
  | usedUp holds =>
      refine .inr ⟨rfl, ?_⟩
      rw [nextCount_cons, holds]
      exact Cell.successor_usedUp

/-- Writing the counter of a company puts the content into its first row. -/
theorem setCounter_eq_cons {company : String} (next : Cell)
    (own : ∀ row ∈ rows, row.companyId = company) :
    ∃ rest, setCounter company next rows = ⟨company, next⟩ :: rest := by
  cases rows with
  | nil => exact ⟨[], rfl⟩
  | cons row rest =>
      have isOwn : (row.companyId == company) = true :=
        beq_iff_eq.mpr (own row (List.mem_cons_self ..))
      rw [setCounter, upsert, List.any_cons, isOwn, Bool.true_or, if_pos rfl, List.map_cons,
        if_pos isOwn]
      exact ⟨_, rfl⟩

/-- Moving the counter of a company on changes that counter only. -/
theorem countersOf_of_advance {s counted : Store} {company : Uuid} {next : Cell}
    (moved : s.advanceCounter company = .ok (next, counted)) :
    next = nextCount (s.countersOf company.text) ∧
      (∃ rest, counted.countersOf company.text = ⟨company.text, next⟩ :: rest) ∧
      ∀ other, other ≠ company → counted.countersOf other.text = s.countersOf other.text := by
  obtain ⟨isNext, rfl⟩ := advanceCounter_eq_of_ok moved
  refine ⟨isNext, ?_, fun other isOther => ?_⟩
  · rw [countersOf, filter_setCounter_same]
    exact setCounter_eq_cons next fun row member => eq_of_beq (List.mem_filter.mp member).2
  · exact filter_setCounter_of_ne (fun same => isOther (Uuid.text_injective same)) next s.counters

/-! ## What is given out -/

/-- A number that was given out for a work order of a company. -/
structure Allotment where
  company : Uuid
  number : String
  deriving DecidableEq

/-- The numbers that were given out for a company. -/
def numbersOf (company : Uuid) (given : List Allotment) : List String :=
  (given.filter fun allotment => allotment.company = company).map Allotment.number

theorem numbersOf_append (company : Uuid) (given further : List Allotment) :
    numbersOf company (given ++ further) = numbersOf company given ++ numbersOf company further := by
  rw [numbersOf, List.filter_append, List.map_append]
  rfl

theorem numbersOf_singleton_self (company : Uuid) (number : String) :
    numbersOf company [⟨company, number⟩] = [number] := by
  simp [numbersOf]

theorem numbersOf_singleton_of_ne {company other : Uuid} (isOther : other ≠ company)
    (number : String) : numbersOf company [⟨other, number⟩] = [] := by
  simp [numbersOf, isOther]

/-- What was given out differs if the numbers of each company do. -/
theorem nodup_of_numbersOf {given : List Allotment}
    (distinct : ∀ company, (numbersOf company given).Nodup) : given.Nodup := by
  induction given with
  | nil => exact List.nodup_nil
  | cons allotment rest ih =>
      have split (company : Uuid) : numbersOf company (allotment :: rest) =
          numbersOf company [allotment] ++ numbersOf company rest :=
        numbersOf_append company [allotment] rest
      rw [List.nodup_cons]
      constructor
      · intro again
        have own := distinct allotment.company
        rw [split, numbersOf_singleton_self allotment.company allotment.number,
          List.singleton_append, List.nodup_cons] at own
        apply own.1
        exact List.mem_map_of_mem (List.mem_filter.mpr ⟨again, decide_eq_true rfl⟩)
      · apply ih
        intro company
        have all := distinct company
        rw [split] at all
        exact (List.nodup_append.mp all).2.1

/-- What a piece of work does to the counters, and what it gives out: it leaves them alone,
moves one on without getting a number from it, or takes a number. -/
inductive Takes (before : Store) : Store → List Allotment → Prop where
  | nothing {after : Store} (same : after.tally = before.tally) : Takes before after []
  | inVain {counted after : Store} {company : Uuid} {next : Cell}
      (moved : before.advanceCounter company = .ok (next, counted)) (noNumber : ∀ n, next ≠ .int n)
      (same : after.tally = counted.tally) : Takes before after []
  | number {counted after : Store} {company : Uuid} {n : Int}
      (moved : before.advanceCounter company = .ok (.int n, counted))
      (same : after.tally = counted.tally) : Takes before after [⟨company, orderNumber n⟩]

theorem Takes.congr {s s' s'' : Store} {given : List Allotment} (takes : Takes s s' given)
    (same : s''.tally = s'.tally) : Takes s s'' given := by
  cases takes with
  | nothing unchanged => exact .nothing (same.trans unchanged)
  | inVain moved noNumber left => exact .inVain moved noNumber (same.trans left)
  | number moved left => exact .number moved (same.trans left)

/-- Taking numbers removes no table. -/
theorem Takes.intact {s s' : Store} {given : List Allotment} (takes : Takes s s' given)
    (intact : s.Intact) : s'.Intact := by
  cases takes with
  | nothing same => exact (congrArg Prod.snd same).trans intact
  | inVain moved noNumber same =>
      rw [(advanceCounter_eq_of_ok moved).2] at same
      exact (congrArg Prod.snd same).trans intact
  | number moved same =>
      rw [(advanceCounter_eq_of_ok moved).2] at same
      exact (congrArg Prod.snd same).trans intact

/-- After `n` numbers of a company, these are its next ones, and its counter stands
accordingly. -/
structure GoesOn (n : Nat) (numbers : List String) (rows : List CounterRow) : Prop where
  inOrder : numbers = (List.range' (n + 1) numbers.length).map numberText
  stands : StandsAt (n + numbers.length) rows

theorem GoesOn.stay (stands : StandsAt n rows) : GoesOn n [] rows :=
  ⟨rfl, stands⟩

theorem GoesOn.append {numbers further : List String} (first : GoesOn n numbers rows)
    {rows' : List CounterRow} (second : GoesOn (n + numbers.length) further rows') :
    GoesOn n (numbers ++ further) rows' where
  inOrder := by
    rw [List.length_append, ← List.range'_append_1, List.map_append, ← first.inOrder,
      Nat.add_right_comm, ← second.inOrder]
  stands := by
    rw [List.length_append, ← Nat.add_assoc]
    exact second.stands

theorem GoesOn.eq_numberText {numbers : List String} (goesOn : GoesOn n numbers rows) {k : Nat}
    {number : String} (isNumber : numbers[k]? = some number) : number = numberText (n + k + 1) := by
  rw [goesOn.inOrder, List.getElem?_map, Option.map_eq_some_iff] at isNumber
  obtain ⟨place, isPlace, rfl⟩ := isNumber
  obtain ⟨inside, rfl⟩ := List.getElem?_eq_some_iff.mp isPlace
  rw [List.getElem_range', Nat.one_mul, Nat.add_right_comm]

theorem GoesOn.nodup {numbers : List String} (goesOn : GoesOn n numbers rows) : numbers.Nodup := by
  rw [goesOn.inOrder]
  exact (List.nodup_range' ..).map numberText_injective

theorem countersOf_congr {s s' : Store} (same : s'.tally = s.tally) (company : String) :
    s'.countersOf company = s.countersOf company := by
  have counters : s'.counters = s.counters := congrArg Prod.fst same
  rw [countersOf, countersOf, counters]

/-- Whatever a piece of work takes, it goes on with the numbers of each company. -/
theorem Takes.goesOn {s s' : Store} {given : List Allotment} (takes : Takes s s' given)
    {count : Uuid → Nat} (stands : ∀ company, StandsAt (count company) (s.countersOf company.text))
    (company : Uuid) :
    GoesOn (count company) (numbersOf company given) (s'.countersOf company.text) := by
  cases takes with
  | nothing same =>
      rw [countersOf_congr same]
      exact .stay (stands company)
  | @inVain counted _ taker next moved noNumber same =>
      obtain ⟨isNext, ⟨rest, own⟩, others⟩ := countersOf_of_advance moved
      rw [countersOf_congr same]
      by_cases isTaker : company = taker
      · subst isTaker
        rcases (stands company).nextCount with ⟨-, number⟩ | ⟨last, usedUp⟩
        · exact absurd (isNext.trans number) (noNumber _)
        · rw [own, last]
          exact .stay (.usedUp (isNext.trans usedUp))
      · rw [others company isTaker]
        exact .stay (stands company)
  | @number counted _ taker n moved same =>
      obtain ⟨isNext, ⟨rest, own⟩, others⟩ := countersOf_of_advance moved
      rw [countersOf_congr same]
      by_cases isTaker : company = taker
      · subst isTaker
        rcases (stands company).nextCount with ⟨fits, number⟩ | ⟨-, usedUp⟩
        · obtain rfl : n = (count company + 1 : Nat) := Cell.int.inj (isNext.trans number)
          rw [numbersOf_singleton_self, orderNumber_natCast, own]
          exact ⟨rfl, .counting rfl fits⟩
        · cases isNext.trans usedUp
      · rw [numbersOf_singleton_of_ne (Ne.symm isTaker), others company isTaker]
        exact .stay (stands company)

end Caretaker
