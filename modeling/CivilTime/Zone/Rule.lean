import CivilTime.Clock.Basic
import CivilTime.Date.Week
import CivilTime.Zone.Record

/-!
# Yearly rules

A rule gives the standard offset of a zone and, if the zone observes daylight saving time, its
offset and the dates of the year at which it starts and ends. The start is given in standard time
and the end in daylight saving time.
-/

set_option autoImplicit false

namespace CivilTime

/-- A day that every year has, in one of three notations. -/
inductive RuleDay where
  /-- `Jn`: the day `n`, counted from one, of a year without 29 February. -/
  | withoutLeapDay (n : Int)
  /-- `n`: the day `n` of the year, counted from zero. -/
  | withLeapDay (n : Int)
  /-- `Mm.w.d`: the weekday `d` (Sunday is zero) that comes as number `w` in the month `m`; number
  five is the last one. -/
  | weekdayOfMonth (month week weekday : Int)
deriving DecidableEq, Repr

/-- A day of the year and a time of that day in seconds, which may be before or after the day. -/
structure RuleDate where
  day : RuleDay
  time : Int
deriving DecidableEq, Repr

/-- When daylight saving time is observed, and at which offset in seconds. -/
structure DaylightRule where
  offset : Int
  start : RuleDate
  finish : RuleDate
deriving DecidableEq, Repr

/-- What clocks show in every year. -/
structure ZoneRule where
  /-- Seconds east of UTC in standard time. -/
  standardOffset : Int
  daylight : Option DaylightRule
deriving DecidableEq, Repr

/-- The place, counted from zero, in a month of `length` days of the weekday that comes as number
`week`, if its first place is `first`. From a place past the end of the month whole weeks are
taken back. -/
def placeInMonth (first week length : Int) : Int :=
  let place := first + (week - 1) * 7
  place - 7 * max 0 ((place - length) / 7 + 1)

/-- The number of days from the first of January to the day. -/
def RuleDay.daysAfterNewYear (year : Int) : RuleDay → Int
  | .withoutLeapDay n => n - 1 + if IsLeapYear year ∧ 59 < n then 1 else 0
  | .withLeapDay n => n
  | .weekdayOfMonth month week weekday =>
    let firstOfMonth := Date.pack year month 1
    let firstPlace := (weekday - (firstOfMonth.sundayWeekday - 1)) % 7
    firstOfMonth.absoluteDay - (Date.pack year 1 1).absoluteDay +
      placeInMonth firstPlace week (daysInMonth year month)

/-- The instant, in seconds, of the date in a year, where clocks show a time `offset` seconds east
of UTC. -/
def RuleDate.instant (date : RuleDate) (year offset : Int) : Int :=
  ((Date.pack year 1 1).absoluteDay + date.day.daysAfterNewYear year) * Clock.secondsPerDay +
    date.time - offset

namespace ZoneRule

/-- The instant at which daylight saving time starts in a year. -/
def startInstant (rule : ZoneRule) (daylight : DaylightRule) (year : Int) : Int :=
  daylight.start.instant year rule.standardOffset

/-- The instant at which daylight saving time ends in a year. -/
def finishInstant (daylight : DaylightRule) (year : Int) : Int :=
  daylight.finish.instant year daylight.offset

/-- Whether daylight saving time is observed at an instant of a year that observes it from `start`
to `finish`. Where it ends before it starts it is observed over New Year. -/
def IsDaylight (start finish instant : Int) : Prop :=
  (start < finish ∧ start ≤ instant ∧ instant < finish) ∨
    (finish ≤ start ∧ ¬ (finish ≤ instant ∧ instant < start))

instance (start finish instant : Int) : Decidable (IsDaylight start finish instant) :=
  inferInstanceAs (Decidable ((_ ∧ _ ∧ _) ∨ (_ ∧ ¬ (_ ∧ _))))

/-- What clocks show at an instant by the start and the end in one year. -/
def recordInYear (rule : ZoneRule) (daylight : DaylightRule) (year instant : Int) : LocalRecord :=
  if IsDaylight (rule.startInstant daylight year) (finishInstant daylight year) instant then
    .daylight daylight.offset
  else .standard rule.standardOffset

/-- What clocks show at an instant, in seconds. The year is that of the instant in standard time,
whose seconds are stored in 64 bits. -/
def recordAt (rule : ZoneRule) (instant : Int) : LocalRecord :=
  match rule.daylight with
  | none => .standard rule.standardOffset
  | some daylight =>
    let localDay := wrapInt64 (instant + rule.standardOffset) / Clock.secondsPerDay
    rule.recordInYear daylight (Date.ofAbsoluteDay localDay).year instant

end ZoneRule

end CivilTime
