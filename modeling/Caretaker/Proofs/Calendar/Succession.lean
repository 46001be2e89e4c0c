import Caretaker.Proofs.Calendar.StoredForm
import Mathlib.Logic.Relation
import Mathlib.Tactic.IntervalCases

/-!
# One day after the other

Dates and instants are compared by their fields.  That is the order in which they come: from
the earlier of two dates, going on day by day leads to the later one, across the ends of
months and years and over the days that leap years add.  Instants come by their dates, and
those of one day by the clock, with leap seconds at the end of their minutes.
-/

namespace Caretaker.Calendar

theorem one_le_daysInMonth (year : Int) {month : Nat} (first : 1 ≤ month) (last : month ≤ 12) :
    1 ≤ daysInMonth year month := by
  have february : 1 ≤ daysInMonth year 2 := by
    show 1 ≤ if isLeapYear year then 29 else 28
    split <;> decide
  interval_cases month
  case «2» => exact february
  all_goals exact Nat.succ_le_succ (Nat.zero_le _)

namespace Date

variable {d e : Date}

theorem one_le_month (d : Date) : 1 ≤ d.month := by
  obtain ⟨-, -, real, upTo⟩ := d.valid
  rcases Nat.eq_zero_or_pos d.month with zero | positive
  · rw [zero] at upTo
    exact absurd (Nat.le_trans real upTo) (Nat.not_succ_le_zero 0)
  · exact positive

theorem one_le_day (d : Date) : 1 ≤ d.day :=
  d.valid.2.2.1

theorem of?_of_isDate {year : Int} {month day : Nat} (valid : IsDate year month day) :
    of? year month day = some ⟨year, month, day, valid⟩ :=
  dif_pos valid

theorem of?_eq_some_iff {year : Int} {month day : Nat} :
    of? year month day = some d ↔ d.year = year ∧ d.month = month ∧ d.day = day := by
  constructor
  · intro same
    rw [of?] at same
    split at same
    · obtain rfl := Option.some.inj same
      exact ⟨rfl, rfl, rfl⟩
    · contradiction
  · rintro ⟨rfl, rfl, rfl⟩
    exact d.of?_self

theorem eq_iff_fields : d = e ↔ d.year = e.year ∧ d.month = e.month ∧ d.day = e.day := by
  rw [← Option.some.injEq, ← e.of?_self, eq_comm, of?_eq_some_iff]

/-- The order of dates, field by field. -/
theorem rank_lt_iff_fields : d.rank < e.rank ↔ d.year < e.year ∨ d.year = e.year ∧
    (d.month < e.month ∨ d.month = e.month ∧ d.day < e.day) := by
  have monthD := d.month_le
  have monthE := e.month_le
  have dayD := d.day_le
  have dayE := e.day_le
  rw [rank, rank]
  omega

/-! ## The next day -/

/-- The day after comes later. -/
theorem rank_lt_of_next? (next : d.next? = some e) : d.rank < e.rank := by
  rw [rank_lt_iff_fields]
  unfold next? at next
  split at next
  · obtain ⟨year, month, day⟩ := of?_eq_some_iff.mp next
    omega
  · split at next
    · obtain ⟨year, month, day⟩ := of?_eq_some_iff.mp next
      omega
    · obtain ⟨year, month, day⟩ := of?_eq_some_iff.mp next
      omega

/-- Whatever comes later is not before the day after. -/
theorem exists_next? (later : d.rank < e.rank) :
    ∃ f, d.next? = some f ∧ ¬e.rank < f.rank := by
  obtain ⟨minD, maxD, -, upToD⟩ := d.valid
  obtain ⟨-, maxE, -, upToE⟩ := e.valid
  have monthD := d.one_le_month
  have monthE := e.one_le_month
  have lastMonth := e.month_le
  have dayE := e.one_le_day
  rw [rank_lt_iff_fields] at later
  simp only [rank_lt_iff_fields, next?]
  split
  · rename_i inside
    have valid : IsDate d.year d.month (d.day + 1) := ⟨minD, maxD, by omega, inside⟩
    exact ⟨_, of?_of_isDate valid, by dsimp only; omega⟩
  · rename_i lastDay
    have notLonger : ¬(d.year = e.year ∧ d.month = e.month ∧ d.day < e.day) := by
      rintro ⟨year, month, day⟩
      rw [← year, ← month] at upToE
      omega
    split
    · rename_i inside
      have valid : IsDate d.year (d.month + 1) 1 :=
        ⟨minD, maxD, Nat.le_refl 1, one_le_daysInMonth d.year (by omega) inside⟩
      exact ⟨_, of?_of_isDate valid, by dsimp only; omega⟩
    · have valid : IsDate (d.year + 1) 1 1 := ⟨by omega, by omega, Nat.le_refl 1,
        one_le_daysInMonth _ (by decide) (by decide)⟩
      exact ⟨_, of?_of_isDate valid, by dsimp only; omega⟩

/-- Going on day by day leads from the first date to the second. -/
def Precedes : Date → Date → Prop :=
  Relation.TransGen fun d e => d.next? = some e

/-- The order of dates is the one in which they come. -/
theorem precedes_iff_rank_lt : d.Precedes e ↔ d.rank < e.rank := by
  constructor
  · intro precedes
    induction precedes with
    | single next => exact rank_lt_of_next? next
    | tail _ next ih => exact Int.lt_trans ih (rank_lt_of_next? next)
  · -- The induction is on how far the two dates are apart.
    intro later
    induction gap : (e.rank - d.rank).toNat using Nat.strongRecOn generalizing d with
    | _ gap ih =>
      obtain ⟨f, next, notAfter⟩ := exists_next? later
      by_cases before : f.rank < e.rank
      · have closer := rank_lt_of_next? next
        exact .head next (ih _ (by omega) before rfl)
      · have same : f = e := by
          rw [rank_lt_iff_fields] at before notAfter
          rw [eq_iff_fields]
          omega
        exact .single (same ▸ next)

end Date

namespace Instant

/-- The first instant comes before the second: on an earlier day, or earlier on the same
day. -/
def Precedes (s t : Instant) : Prop :=
  s.date.Precedes t.date ∨ s.date = t.date ∧
    (s.hour < t.hour ∨ s.hour = t.hour ∧
      (s.minute < t.minute ∨ s.minute = t.minute ∧
        (s.second < t.second ∨ s.second = t.second ∧ s.nano < t.nano)))

/-- Instants are ordered as they come. -/
theorem lt_iff_precedes {s t : Instant} : s < t ↔ s.Precedes t := by
  rw [lt_iff_fields, Precedes, Date.precedes_iff_rank_lt, Date.rank_lt_iff_fields,
    Date.eq_iff_fields]
  omega

end Instant

end Caretaker.Calendar
