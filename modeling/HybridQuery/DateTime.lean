import HybridQuery.Number.Shortest
import HybridQuery.Text.Trim

/-!
# Dates with a time and an offset

A `DateTime` is a local date and time of the Gregorian calendar together with its offset from
UTC. Its parts come with the proofs that there is such a day, such a time of day and such an
offset, and `DateTime.ofParts?` checks them. Two of them are the same when they name the same
instant (`instant`), whatever their offsets. `rfc3339` writes one in the internet format, which
has room for years of four digits, offsets of less than a day and no seconds of offset; the first
part without room, in that order, is the error.
-/

namespace HybridQuery

/-- Every fourth year has a leap day, and of the full centuries every fourth one. -/
def IsLeapYear (year : Int) : Prop :=
  year % 4 = 0 ∧ (year % 100 = 0 → year % 400 = 0)
  deriving Decidable

/-- The number of days of a month. -/
def daysOfMonth (year : Int) : Nat → Nat
  | 2 => if IsLeapYear year then 29 else 28
  | 4 | 6 | 9 | 11 => 30
  | _ => 31

/-- A day of the Gregorian calendar. -/
structure CalendarDay where
  year : Int
  month : Nat
  day : Nat
  month_mem : 1 ≤ month ∧ month ≤ 12 := by decide
  day_mem : 1 ≤ day ∧ day ≤ daysOfMonth year month := by decide
  deriving DecidableEq, Repr

/-- A time of day. -/
structure ClockTime where
  hour : Nat := 0
  minute : Nat := 0
  second : Nat := 0
  nanosecond : Nat := 0
  hour_lt : hour < 24 := by decide
  minute_lt : minute < 60 := by decide
  second_lt : second < 60 := by decide
  nanosecond_lt : nanosecond < 1000000000 := by decide
  deriving DecidableEq, Repr

/-- An offset from UTC, whose three parts share one sign. -/
structure UtcOffset where
  offsetHours : Int := 0
  offsetMinutes : Int := 0
  offsetSeconds : Int := 0
  offsetHours_le : offsetHours.natAbs ≤ 25 := by decide
  offsetMinutes_lt : offsetMinutes.natAbs < 60 := by decide
  offsetSeconds_lt : offsetSeconds.natAbs < 60 := by decide
  sign : (0 ≤ offsetHours ∧ 0 ≤ offsetMinutes ∧ 0 ≤ offsetSeconds) ∨
    (offsetHours ≤ 0 ∧ offsetMinutes ≤ 0 ∧ offsetSeconds ≤ 0) := by decide
  deriving DecidableEq, Repr

/-- A local date and time with its offset from UTC. -/
structure DateTime extends CalendarDay, ClockTime, UtcOffset
  deriving DecidableEq, Repr

/-- The day with these parts, if there is one. -/
def CalendarDay.ofParts? (year : Int) (month day : Nat) : Option CalendarDay :=
  if h : (1 ≤ month ∧ month ≤ 12) ∧ 1 ≤ day ∧ day ≤ daysOfMonth year month then
    some ⟨year, month, day, h.1, h.2⟩
  else none

theorem CalendarDay.ofParts?_parts (d : CalendarDay) : ofParts? d.year d.month d.day = some d :=
  dif_pos ⟨d.month_mem, d.day_mem⟩

/-- The time of day with these parts, if there is one. -/
def ClockTime.ofParts? (hour minute second nanosecond : Nat) : Option ClockTime :=
  if h : hour < 24 ∧ minute < 60 ∧ second < 60 ∧ nanosecond < 1000000000 then
    some ⟨hour, minute, second, nanosecond, h.1, h.2.1, h.2.2.1, h.2.2.2⟩
  else none

theorem ClockTime.ofParts?_parts (t : ClockTime) :
    ofParts? t.hour t.minute t.second t.nanosecond = some t :=
  dif_pos ⟨t.hour_lt, t.minute_lt, t.second_lt, t.nanosecond_lt⟩

/-- The offset with these parts, if there is one. -/
def UtcOffset.ofParts? (hours minutes seconds : Int) : Option UtcOffset :=
  if h : (hours.natAbs ≤ 25 ∧ minutes.natAbs < 60 ∧ seconds.natAbs < 60) ∧
      ((0 ≤ hours ∧ 0 ≤ minutes ∧ 0 ≤ seconds) ∨ (hours ≤ 0 ∧ minutes ≤ 0 ∧ seconds ≤ 0)) then
    some ⟨hours, minutes, seconds, h.1.1, h.1.2.1, h.1.2.2, h.2⟩
  else none

theorem UtcOffset.ofParts?_parts (o : UtcOffset) :
    ofParts? o.offsetHours o.offsetMinutes o.offsetSeconds = some o :=
  dif_pos ⟨⟨o.offsetHours_le, o.offsetMinutes_lt, o.offsetSeconds_lt⟩, o.sign⟩

namespace DateTime

/-- The date and time with these parts, if there is one. -/
def ofParts? (year : Int) (month day hour minute second nanosecond : Nat)
    (offsetHours offsetMinutes offsetSeconds : Int) : Option DateTime := do
  let day ← CalendarDay.ofParts? year month day
  let time ← ClockTime.ofParts? hour minute second nanosecond
  let offset ← UtcOffset.ofParts? offsetHours offsetMinutes offsetSeconds
  some ⟨day, time, offset⟩

/-- Every date and time is found by its parts. -/
theorem ofParts?_parts (t : DateTime) :
    ofParts? t.year t.month t.day t.hour t.minute t.second t.nanosecond t.offsetHours
      t.offsetMinutes t.offsetSeconds = some t := by
  have hday := CalendarDay.ofParts?_parts t.toCalendarDay
  have htime := ClockTime.ofParts?_parts t.toClockTime
  have hoffset := UtcOffset.ofParts?_parts t.toUtcOffset
  rw [ofParts?, hday, htime, hoffset]
  rfl

/-- A part that the internet format may have no room for. -/
inductive Part where
  | year
  | offsetHour
  | offsetSecond
  deriving DecidableEq, Repr

def Part.text : Part → String
  | .year => "year"
  | .offsetHour => "offset_hour"
  | .offsetSecond => "offset_second"

/-- Days counted from a fixed one. The year begins in March here, so that the leap day is
its last. -/
def dayNumber (t : DateTime) : Int :=
  let year := if t.month ≤ 2 then t.year - 1 else t.year
  let month := (t.month + 9) % 12
  365 * year + year.fdiv 4 - year.fdiv 100 + year.fdiv 400 + ((153 * month + 2) / 5 + t.day : Nat)

/-- Nanoseconds in UTC from a fixed day. -/
def instant (t : DateTime) : Int :=
  let hours := t.dayNumber * 24 + t.hour - t.offsetHours
  let minutes := hours * 60 + t.minute - t.offsetMinutes
  let seconds := minutes * 60 + t.second - t.offsetSeconds
  seconds * 1000000000 + t.nanosecond

/-- The same instant. -/
def same (s t : DateTime) : Bool :=
  decide (s.instant = t.instant)

/-- The digits of `n`, filled up with zeros to `width`. -/
def padded (width n : Nat) : List Char :=
  List.replicate (width - (digitsOf n).length) '0' ++ digitsOf n

/-- A point and the digits of the fraction of a second, none for a whole second. -/
def fraction (t : DateTime) : List Char :=
  if t.nanosecond = 0 then [] else '.' :: dropTrailing '0' (padded 9 t.nanosecond)

/-- `Z` in UTC, else a sign with hours and minutes. -/
def offset (t : DateTime) : List Char :=
  if t.offsetHours = 0 ∧ t.offsetMinutes = 0 ∧ t.offsetSeconds = 0 then ['Z']
  else
    let sign := if t.offsetHours < 0 ∨ t.offsetMinutes < 0 ∨ t.offsetSeconds < 0 then '-' else '+'
    sign :: padded 2 t.offsetHours.natAbs ++ ':' :: padded 2 t.offsetMinutes.natAbs

/-- The internet format. -/
def rfc3339 (t : DateTime) : Except Part String :=
  if t.year < 0 ∨ 9999 < t.year then .error .year
  else if 23 < t.offsetHours.natAbs then .error .offsetHour
  else if t.offsetSeconds ≠ 0 then .error .offsetSecond
  else
    let date := padded 4 t.year.toNat ++ '-' :: padded 2 t.month ++ '-' :: padded 2 t.day
    let time := padded 2 t.hour ++ ':' :: padded 2 t.minute ++ ':' :: padded 2 t.second
    .ok (String.ofList (date ++ 'T' :: time ++ t.fraction ++ t.offset))

end DateTime

end HybridQuery
