import Caretaker.Calendar.Date
import Caretaker.Text.Digits

/-!
# Instants

An instant is a moment of Coordinated Universal Time, exact to the nanosecond.
Second 60 is a leap second; it may stand in any minute and comes after second 59
and before the next minute.

Two texts are written.  The wire form has the shortest of no, three, six and nine
digits of a second that is exact.  The stored form always has nine, so that for
years 0 to 9999 all stored texts are equally long.  A year outside that range is
written with its sign.
-/

namespace Caretaker.Calendar

open Caretaker.Text

/-- The four numbers name a moment of a day. -/
def IsTime (hour minute second nano : Nat) : Prop :=
  hour < 24 ∧ minute < 60 ∧ second ≤ 60 ∧ nano < 1000000000

instance (hour minute second nano : Nat) : Decidable (IsTime hour minute second nano) :=
  inferInstanceAs (Decidable (_ ∧ _))

/-- A moment of Coordinated Universal Time. -/
structure Instant where
  date : Date
  hour : Nat
  minute : Nat
  second : Nat
  nano : Nat
  valid : IsTime hour minute second nano
  deriving DecidableEq

namespace Instant

instance : Inhabited Instant := ⟨⟨default, 0, 0, 0, 0, by decide⟩⟩

/-- The instant with these numbers, if there is one. -/
def of? (date : Date) (hour minute second nano : Nat) : Option Instant :=
  if valid : IsTime hour minute second nano then some ⟨date, hour, minute, second, nano, valid⟩
  else none

/-- The position of an instant in chronological order. -/
def rank (t : Instant) : Int :=
  (((t.date.rank * 24 + t.hour) * 60 + t.minute) * 61 + t.second) * 1000000000 + t.nano

instance : LT Instant := ⟨fun s t => s.rank < t.rank⟩

instance : LE Instant := ⟨fun s t => s.rank ≤ t.rank⟩

instance (s t : Instant) : Decidable (s < t) :=
  inferInstanceAs (Decidable (s.rank < t.rank))

instance (s t : Instant) : Decidable (s ≤ t) :=
  inferInstanceAs (Decidable (s.rank ≤ t.rank))

/-- A year: four digits from 0 to 9999, otherwise a sign and at least four. -/
def yearText (year : Int) : List Char :=
  if 0 ≤ year ∧ year ≤ 9999 then padded 4 year.toNat
  else (if year < 0 then '-' else '+') :: padded 4 year.natAbs

/-- Date and time down to the second. -/
def secondText (t : Instant) : List Char :=
  yearText t.date.year ++ '-' :: padded 2 t.date.month ++ '-' :: padded 2 t.date.day ++
    'T' :: padded 2 t.hour ++ ':' :: padded 2 t.minute ++ ':' :: padded 2 t.second

/-- The digits of a second that are needed, with the point before them. -/
def fractionText (nano : Nat) : List Char :=
  if nano = 0 then []
  else if nano % 1000000 = 0 then '.' :: fixedDigits 10 3 (nano / 1000000)
  else if nano % 1000 = 0 then '.' :: fixedDigits 10 6 (nano / 1000)
  else '.' :: fixedDigits 10 9 nano

/-- The wire form of an instant. -/
def wireText (t : Instant) : String :=
  String.ofList (t.secondText ++ fractionText t.nano ++ ['Z'])

/-- The stored form of an instant. -/
def storedText (t : Instant) : String :=
  String.ofList (t.secondText ++ '.' :: fixedDigits 10 9 t.nano ++ ['Z'])

/-- The instant with its offset from Universal Time, which is zero. -/
def offsetText (t : Instant) : String :=
  String.ofList (t.secondText ++ fractionText t.nano ++ "+00:00".toList)

/-- The instant down to the millisecond. -/
def milliText (t : Instant) : String :=
  String.ofList (t.secondText ++ '.' :: fixedDigits 10 3 (t.nano / 1000000) ++ ['Z'])

/-- Date and time down to the minute, for people. -/
def minuteText (t : Instant) : String :=
  String.ofList (yearText t.date.year ++ '-' :: padded 2 t.date.month ++
    '-' :: padded 2 t.date.day ++ ' ' :: padded 2 t.hour ++ ':' :: padded 2 t.minute)

/-- The instant that is `offset` minutes ahead of Universal Time at the given local
date and time.  The offset is less than a day. -/
def ofLocal? (date : Date) (hour minute second nano : Nat) (offset : Int) : Option Instant :=
  let minutes : Int := hour * 60 + minute - offset
  let day? :=
    if minutes < 0 then date.prev? else if 1440 ≤ minutes then date.next? else some date
  let ofDay := (minutes % 1440).toNat
  match of? date hour minute second nano, day? with
  | some _, some day => of? day (ofDay / 60) (ofDay % 60) second nano
  | _, _ => none

end Instant

end Caretaker.Calendar
