import CivilTime.Date.AbsoluteDay

/-!
# Weekdays and weeks

Weekdays are numbered from one, starting with the first day of the week. Weeks are numbered
within a year whose first week is the first one that has enough days of the year in it; so the
days around New Year may belong to a week of the neighbouring year.
-/

set_option autoImplicit false

namespace CivilTime

/-- Which day starts a week, and which week starts a year. -/
structure WeekRules where
  /-- Monday is `1`; Sunday is `0` or `7`. -/
  firstDay : Int
  /-- The first week has at least this many days of the year. -/
  minimalDays : Int
  /-- The first day is a weekday. -/
  firstDay_range : 0 ≤ firstDay ∧ firstDay ≤ 7
  /-- A week has seven days. -/
  minimalDays_range : 1 ≤ minimalDays ∧ minimalDays ≤ 7
deriving DecidableEq, Repr

namespace WeekRules

/-- Weeks of ISO 8601: from Monday on, and the first one has at least four days of the year. -/
def iso : WeekRules := ⟨1, 4, by decide, by decide⟩

/-- Weeks from Sunday on, and the first one holds the first of January. -/
def sundayStart : WeekRules := ⟨0, 1, by decide, by decide⟩

/-- The rules with the given first day and number of days. -/
def ofParts (firstDay minimalDays : Int) : Except Error WeekRules :=
  if h : (0 ≤ firstDay ∧ firstDay ≤ 7) ∧ (1 ≤ minimalDays ∧ minimalDays ≤ 7) then
    .ok ⟨firstDay, minimalDays, h.1, h.2⟩
  else .error (.invalidWeekRules firstDay minimalDays)

end WeekRules

/-- The number of the weekday of a day, where `firstDay` (Monday `1`, Sunday `0` or `7`) has the
number `1`. Remainders are taken towards zero, so the days before the epoch are counted from the
other end of the week. The number is stored in a byte. -/
def weekdayNumber (absoluteDay firstDay : Int) : Int :=
  if 0 ≤ absoluteDay then wrapByte ((absoluteDay - firstDay + 11).tmod 7 + 1)
  else wrapByte ((absoluteDay - firstDay - 2).tmod 7 + 7)

/-- The day on which the first week of `year` starts. -/
def weekOneStart (year : Int) (rules : WeekRules) : Int :=
  let newYear := (Date.pack year 1 1).absoluteDay
  let daysInFirstWeek := 8 - weekdayNumber newYear rules.firstDay
  if rules.minimalDays ≤ daysInFirstWeek then newYear + daysInFirstWeek - 7
  else newYear + daysInFirstWeek

/-- Where the week of a date is numbered, seen from the year of the date. -/
inductive WeekPosition where
  | previousYear
  | sameYear
  | nextYear
deriving DecidableEq, Repr

namespace Date

/-- The number of the weekday of a date, where `firstDay` has the number `1`. -/
def weekday (d : Date) (firstDay : Int) : Int := weekdayNumber d.absoluteDay firstDay

/-- Monday is `1`, Sunday is `7`. -/
def isoWeekday (d : Date) : Int := d.weekday 1

/-- Sunday is `1`, Saturday is `7`. -/
def sundayWeekday (d : Date) : Int := d.weekday 0

/-- The number of the day in its year, counted from one and stored in two bytes. -/
def dayOfYear (d : Date) : Int :=
  wrapWord (d.absoluteDay - (pack d.year 1 1).absoluteDay + 1)

/-- The year in which the week of a date is numbered. Only the last days of December can belong
to the first week of the next year. -/
def weekPosition (d : Date) (rules : WeekRules) : WeekPosition :=
  if d.absoluteDay < weekOneStart d.year rules then .previousYear
  else if d.month = 12 ∧ 24 + rules.minimalDays < d.day ∧
      weekOneStart (d.year + 1) rules ≤ d.absoluteDay then .nextYear
  else .sameYear

/-- The number of the week of a date, stored in a byte. -/
def weekOfYear (d : Date) (rules : WeekRules) : Int :=
  match d.weekPosition rules with
  | .nextYear => 1
  | .previousYear =>
    wrapByte ((d.absoluteDay - weekOneStart (d.year - 1) rules).tdiv 7 + 1)
  | .sameYear => wrapByte ((d.absoluteDay - weekOneStart d.year rules).tdiv 7 + 1)

/-- The year in which the week of a date is numbered. -/
def weekYear (d : Date) (rules : WeekRules) : Int :=
  match d.weekPosition rules with
  | .previousYear => d.year - 1
  | .nextYear => d.year + 1
  | .sameYear => d.year

/-- The week of ISO 8601. -/
def isoWeekOfYear (d : Date) : Int := d.weekOfYear .iso

/-- The year in which the week of ISO 8601 is numbered. -/
def isoWeekYear (d : Date) : Int := d.weekYear .iso

example : (pack 2019 12 31).isoWeekYear = 2020 ∧ (pack 2019 12 31).isoWeekOfYear = 1 := by decide

end Date

end CivilTime
