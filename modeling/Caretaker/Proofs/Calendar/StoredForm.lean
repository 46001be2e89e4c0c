import Caretaker.Calendar.Reading
import Caretaker.Proofs.Text.Digits

/-!
# The stored form of instants

An instant of a year from 0 to 9999 is legible: its stored text is accepted again
and gives the instant back.  The stored text of any other year starts with a sign,
which the strict grammar refuses, so that legibility decides exactly which stored
texts can be read.

Legible texts are equally long and put their fields in the order of their weight.
Comparing them as texts is therefore comparing the instants.
-/

namespace Caretaker.Calendar

open Text

/-! ## Bounds -/

/-- No month has more than 31 days, and only the months 1 to 12 have any. -/
theorem daysInMonth_bounds {year : Int} {month day : Nat} (real : 1 ≤ day)
    (upTo : day ≤ daysInMonth year month) : month ≤ 12 ∧ day ≤ 31 := by
  unfold daysInMonth at upTo
  split at upTo <;> (try split at upTo) <;> omega

theorem Date.month_le (d : Date) : d.month ≤ 12 :=
  (daysInMonth_bounds d.valid.2.2.1 d.valid.2.2.2).1

theorem Date.day_le (d : Date) : d.day ≤ 31 :=
  (daysInMonth_bounds d.valid.2.2.1 d.valid.2.2.2).2

@[simp]
theorem Date.of?_self (d : Date) : Date.of? d.year d.month d.day = some d := by
  simp [Date.of?, d.valid]

namespace Instant

/-- The year has exactly four digits and no sign. -/
def Legible (t : Instant) : Prop :=
  0 ≤ t.date.year ∧ t.date.year ≤ 9999

instance (t : Instant) : Decidable t.Legible :=
  inferInstanceAs (Decidable (_ ∧ _))

/-! ## Reading fields -/

/-- A field is taken as a whole when it fills the reader's room, or when no digit follows
it. -/
theorem takeNumber_append {least most width n : Nat} (wide : 0 < width)
    (fits : n < Nat.pow 10 width) (enough : least ≤ width) (room : width ≤ most)
    {rest : List Char} (ends : width = most ∨ rest.takeWhile isDecimalDigit = []) :
    takeNumber least most (fixedDigits 10 width n ++ rest) = some (n, rest) := by
  have digits : ((fixedDigits 10 width n ++ rest).take most).takeWhile isDecimalDigit =
      fixedDigits 10 width n := by
    rw [List.take_append, length_fixedDigits, List.take_of_length_le (by simpa using room)]
    apply takeWhile_fixedDigits_append
    rcases ends with full | ends
    · simp [full]
    · cases rest with
      | nil => simp
      | cons c rest =>
          have noDigit : isDecimalDigit c = false := by
            cases digit : isDecimalDigit c with
            | false => rfl
            | true => simp [digit] at ends
          cases most - width <;> simp [noDigit]
  have notShort : ¬(fixedDigits 10 width n).length < least := by simpa using enough
  simp only [takeNumber, digits, notShort, if_false, natOfDecimal?_fixedDigits wide fits,
    Option.map_some, List.drop_left' rfl]

/-- A field that fills its width is taken as a whole, whatever follows it. -/
theorem takeNumber_fixedDigits {width n : Nat} (wide : 0 < width) (fits : n < Nat.pow 10 width)
    (rest : List Char) :
    takeNumber width width (fixedDigits 10 width n ++ rest) = some (n, rest) :=
  takeNumber_append wide fits (Nat.le_refl _) (Nat.le_refl _) (.inl rfl)

theorem takeChar_cons (c : Char) (rest : List Char) : takeChar c (c :: rest) = some rest :=
  if_pos rfl

theorem takeTimeMark_cons (rest : List Char) : takeTimeMark ('T' :: rest) = some rest :=
  rfl

theorem takeZone_utc (divide : List Char → Option (List Char)) :
    takeZone divide ['Z'] = some (0, []) :=
  rfl

/-- Up to nine digits after the point are a number of nanoseconds. -/
theorem takeFraction_append {width n : Nat} (wide : 0 < width) (atMost : width ≤ 9)
    (fits : n < Nat.pow 10 width) :
    takeFraction ('.' :: (fixedDigits 10 width n ++ ['Z'])) =
      some (n * Nat.pow 10 (9 - width), ['Z']) := by
  have digits := takeWhile_fixedDigits_append width n
    (show ['Z'].takeWhile isDecimalDigit = [] from rfl)
  have kept : (fixedDigits 10 width n).take 9 = fixedDigits 10 width n :=
    List.take_of_length_le (by simpa using atMost)
  simp [takeFraction, digits, kept, natOfDecimal?_fixedDigits wide fits]

theorem takeFraction_fixedDigits {n : Nat} (fits : n < Nat.pow 10 9) :
    takeFraction ('.' :: (fixedDigits 10 9 n ++ ['Z'])) = some (n, ['Z']) := by
  rw [takeFraction_append (by decide) (by decide) fits]
  simp

/-- A moment of a day that is given in Universal Time stays on its day. -/
theorem ofLocal?_self (t : Instant) :
    ofLocal? t.date t.hour t.minute t.second t.nano 0 = some t := by
  obtain ⟨date, hour, minute, second, nano, valid⟩ := t
  obtain ⟨hourBound, minuteBound, -, -⟩ := id valid
  have sameDay : ¬((hour : Int) * 60 + minute - 0 < 0) ∧ ¬(1440 ≤ (hour : Int) * 60 + minute - 0) := by
    omega
  have ofDay : (((hour : Int) * 60 + minute - 0) % 1440).toNat = hour * 60 + minute := by omega
  have sameHour : (hour * 60 + minute) / 60 = hour := by omega
  have sameMinute : (hour * 60 + minute) % 60 = minute := by omega
  simp only [ofLocal?, of?, valid, dite_true, sameDay, if_false, ofDay, sameHour, sameMinute]

/-! ## The text of a legible instant -/

theorem year_fits {t : Instant} (legible : t.Legible) : t.date.year.toNat < Nat.pow 10 4 := by
  have := legible.2
  show t.date.year.toNat < 10000
  omega

theorem yearText_of_legible {t : Instant} (legible : t.Legible) :
    yearText t.date.year = fixedDigits 10 4 t.date.year.toNat := by
  have inRange : 0 ≤ t.date.year ∧ t.date.year ≤ 9999 := legible
  rw [yearText, if_pos inRange, padded_eq_fixedDigits (by decide) (year_fits legible)]

theorem month_fits (t : Instant) : t.date.month < Nat.pow 10 2 :=
  Nat.lt_of_le_of_lt t.date.month_le (by decide)

theorem day_fits (t : Instant) : t.date.day < Nat.pow 10 2 :=
  Nat.lt_of_le_of_lt t.date.day_le (by decide)

theorem hour_fits (t : Instant) : t.hour < Nat.pow 10 2 :=
  Nat.lt_trans t.valid.1 (by decide)

theorem minute_fits (t : Instant) : t.minute < Nat.pow 10 2 :=
  Nat.lt_trans t.valid.2.1 (by decide)

theorem second_fits (t : Instant) : t.second < Nat.pow 10 2 :=
  Nat.lt_of_le_of_lt t.valid.2.2.1 (by decide)

theorem nano_fits (t : Instant) : t.nano < Nat.pow 10 9 :=
  t.valid.2.2.2

/-- The fields of a legible text, each of its own width. -/
theorem toList_storedText {t : Instant} (legible : t.Legible) :
    t.storedText.toList =
      fixedDigits 10 4 t.date.year.toNat ++ '-' :: (fixedDigits 10 2 t.date.month ++
        '-' :: (fixedDigits 10 2 t.date.day ++ 'T' :: (fixedDigits 10 2 t.hour ++
          ':' :: (fixedDigits 10 2 t.minute ++ ':' :: (fixedDigits 10 2 t.second ++
            '.' :: (fixedDigits 10 9 t.nano ++ ['Z'])))))) := by
  simp [storedText, secondText, yearText_of_legible legible,
    padded_eq_fixedDigits (by decide) t.month_fits, padded_eq_fixedDigits (by decide) t.day_fits,
    padded_eq_fixedDigits (by decide) t.hour_fits,
    padded_eq_fixedDigits (by decide) t.minute_fits,
    padded_eq_fixedDigits (by decide) t.second_fits]

/-! ## Reading back -/

/-- One field was read, and the rest of the text reads to the end. -/
theorem bind_of_some {α β : Type} {first : Option α} {next : α → Option β} {value : α}
    {result : Option β} (read : first = some value) (rest : next value = result) :
    first >>= next = result := by
  rw [read]
  exact rest

/-- A legible instant reads back from its stored text. -/
theorem readStored?_of_legible {t : Instant} (legible : t.Legible) :
    readStored? t.storedText = some t := by
  have date : Date.of? (t.date.year.toNat : Nat) t.date.month t.date.day = some t.date := by
    rw [Int.toNat_of_nonneg legible.1, Date.of?_self]
  rw [readStored?, toList_storedText legible]
  apply bind_of_some (takeNumber_fixedDigits (by decide) (year_fits legible) _)
  apply bind_of_some (takeChar_cons '-' _)
  apply bind_of_some (takeNumber_fixedDigits (by decide) t.month_fits _)
  apply bind_of_some (takeChar_cons '-' _)
  apply bind_of_some (takeNumber_fixedDigits (by decide) t.day_fits _)
  apply bind_of_some (takeTimeMark_cons _)
  apply bind_of_some (takeNumber_fixedDigits (by decide) t.hour_fits _)
  apply bind_of_some (takeChar_cons ':' _)
  apply bind_of_some (takeNumber_fixedDigits (by decide) t.minute_fits _)
  apply bind_of_some (takeChar_cons ':' _)
  apply bind_of_some (takeNumber_fixedDigits (by decide) t.second_fits _)
  apply bind_of_some (takeFraction_fixedDigits t.nano_fits)
  apply bind_of_some (takeZone_utc _)
  apply bind_of_some date
  exact ofLocal?_self t

/-- The stored text of a year that is not legible starts with a sign. -/
theorem head_storedText {t : Instant} (illegible : ¬t.Legible) :
    ∃ sign rest, t.storedText.toList = sign :: rest ∧ isDecimalDigit sign = false := by
  have outOfRange : ¬(0 ≤ t.date.year ∧ t.date.year ≤ 9999) := illegible
  obtain ⟨rest, parts⟩ : ∃ rest, t.storedText.toList = yearText t.date.year ++ rest := by
    simp only [storedText, secondText, String.toList_ofList, List.append_assoc]
    exact ⟨_, rfl⟩
  rw [parts, yearText, if_neg outOfRange]
  exact ⟨_, _, rfl, by split <;> rfl⟩

/-- Exactly the stored texts of legible instants can be read. -/
theorem readStored?_storedText (t : Instant) :
    readStored? t.storedText = if t.Legible then some t else none := by
  split
  · rename_i legible
    exact readStored?_of_legible legible
  · rename_i illegible
    obtain ⟨sign, rest, starts, noDigit⟩ := head_storedText illegible
    have noYear : takeNumber 4 4 (sign :: rest) = none := by
      simp [takeNumber, noDigit]
    rw [readStored?, starts, noYear]
    rfl

/-! ## Order -/

/-- Two numbers in a mixed base are compared by their high parts first. -/
theorem mixed_lt_iff {high₁ high₂ low₁ low₂ : Int} {base : Int} (nonneg₁ : 0 ≤ low₁)
    (nonneg₂ : 0 ≤ low₂) (below₁ : low₁ < base) (below₂ : low₂ < base) :
    high₁ * base + low₁ < high₂ * base + low₂ ↔
      high₁ < high₂ ∨ high₁ = high₂ ∧ low₁ < low₂ := by
  rcases Int.lt_trichotomy high₁ high₂ with smaller | rfl | larger
  · have room := Int.mul_le_mul_of_nonneg_right (Int.add_one_le_of_lt smaller)
      (Int.le_trans nonneg₁ (Int.le_of_lt below₁))
    rw [Int.add_mul, Int.one_mul] at room
    constructor
    · exact fun _ => .inl smaller
    · intro _
      omega
  · omega
  · have room := Int.mul_le_mul_of_nonneg_right (Int.add_one_le_of_lt larger)
      (Int.le_trans nonneg₁ (Int.le_of_lt below₁))
    rw [Int.add_mul, Int.one_mul] at room
    constructor <;> omega

/-- Chronological order, field by field. -/
theorem lt_iff_fields (s t : Instant) :
    s < t ↔ s.date.year < t.date.year ∨ s.date.year = t.date.year ∧
      (s.date.month < t.date.month ∨ s.date.month = t.date.month ∧
        (s.date.day < t.date.day ∨ s.date.day = t.date.day ∧
          (s.hour < t.hour ∨ s.hour = t.hour ∧
            (s.minute < t.minute ∨ s.minute = t.minute ∧
              (s.second < t.second ∨ s.second = t.second ∧ s.nano < t.nano))))) := by
  have monthS := s.date.month_le
  have monthT := t.date.month_le
  have dayS := s.date.day_le
  have dayT := t.date.day_le
  obtain ⟨hourS, minuteS, secondS, nanoS⟩ := s.valid
  obtain ⟨hourT, minuteT, secondT, nanoT⟩ := t.valid
  show s.rank < t.rank ↔ _
  rw [rank, rank, mixed_lt_iff (by omega) (by omega) (by omega) (by omega),
    mixed_lt_iff (by omega) (by omega) (by omega) (by omega),
    mixed_lt_iff (by omega) (by omega) (by omega) (by omega),
    mixed_lt_iff (by omega) (by omega) (by omega) (by omega),
    Date.rank, Date.rank, mixed_lt_iff (by omega) (by omega) (by omega) (by omega),
    mixed_lt_iff (by omega) (by omega) (by omega) (by omega)]
  omega

theorem lt_irrefl (t : Instant) : ¬t < t :=
  Int.lt_irrefl t.rank

/-- Two instants neither of which is before the other are the same. -/
theorem eq_of_not_lt {s t : Instant} (notBefore : ¬s < t) (notAfter : ¬t < s) : s = t := by
  rw [lt_iff_fields] at notBefore notAfter
  rcases s with ⟨⟨yearS, monthS, dayS, _⟩, hourS, minuteS, secondS, nanoS, _⟩
  rcases t with ⟨⟨yearT, monthT, dayT, _⟩, hourT, minuteT, secondT, nanoT, _⟩
  simp only [mk.injEq, Date.mk.injEq] at notBefore notAfter ⊢
  omega

/-- Stored texts of legible instants are ordered as the instants are. -/
theorem storedText_lt_iff {s t : Instant} (legibleS : s.Legible) (legibleT : t.Legible) :
    s.storedText < t.storedText ↔ s < t := by
  rw [String.lt_iff, toList_storedText legibleS, toList_storedText legibleT, lt_iff_fields,
    fixedDigits_append_lt_iff (by decide) (year_fits legibleS) (year_fits legibleT),
    cons_lt_cons_same_iff,
    fixedDigits_append_lt_iff (by decide) s.month_fits t.month_fits, cons_lt_cons_same_iff,
    fixedDigits_append_lt_iff (by decide) s.day_fits t.day_fits, cons_lt_cons_same_iff,
    fixedDigits_append_lt_iff (by decide) s.hour_fits t.hour_fits, cons_lt_cons_same_iff,
    fixedDigits_append_lt_iff (by decide) s.minute_fits t.minute_fits, cons_lt_cons_same_iff,
    fixedDigits_append_lt_iff (by decide) s.second_fits t.second_fits, cons_lt_cons_same_iff,
    fixedDigits_append_lt_iff (by decide) s.nano_fits t.nano_fits]
  have nonnegS := legibleS.1
  have nonnegT := legibleT.1
  have noLess : ¬(['Z'] < ['Z']) := List.lt_irrefl _
  simp only [noLess, and_false, or_false]
  omega

/-- Two legible instants with the same stored text are the same. -/
theorem storedText_inj {s t : Instant} (legibleS : s.Legible) (legibleT : t.Legible)
    (same : s.storedText = t.storedText) : s = t := by
  have read := congrArg readStored? same
  rw [readStored?_of_legible legibleS, readStored?_of_legible legibleT] at read
  exact Option.some.inj read

end Instant

end Caretaker.Calendar
