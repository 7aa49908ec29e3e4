import CivilTime.Clock.Basic
import CivilTime.Date.Calendar

/-!
# Local fields

The fields of a local date and time as a user sets them. Each of them may be out of the range
that the calendar has for it.
-/

set_option autoImplicit false

namespace CivilTime

/-- The seven fields of a local date and time. January is `1`. -/
structure LocalFields where
  year : Int
  month : Int
  day : Int
  hour : Int
  minute : Int
  second : Int
  millisecond : Int
deriving DecidableEq, Repr

namespace LocalFields

/-- The fields of a date and a number of milliseconds of its day. -/
def ofDateMillis (date : Date) (millisOfDay : Int) : LocalFields :=
  let clock := Clock.split (wrapInt64 (millisOfDay * Clock.nanosPerMilli))
  { year := date.year
    month := date.month
    day := date.day
    hour := clock.hour
    minute := clock.minute
    second := clock.second
    millisecond := clock.millisecond }

/-- The fields of a time on 1970-01-01. Whole days of the time do not count. -/
def ofTimeOfDay (nanos : Int) : LocalFields :=
  let clock := Clock.split nanos
  ⟨1970, 1, 1, clock.hour.tmod 24, clock.minute, clock.second, clock.millisecond⟩

/-- The fields of the time. -/
def clock (fields : LocalFields) : Clock.Fields :=
  ⟨fields.hour, fields.minute, fields.second, fields.millisecond⟩

/-- The date, which means something for fields of the calendar only. -/
def date (fields : LocalFields) : Date := .pack fields.year fields.month fields.day

/-- The time in nanoseconds. -/
def nanosOfDay (fields : LocalFields) : Int := fields.clock.nanos

/-- The first field that is outside its range. -/
def firstOverflow? (fields : LocalFields) : Option CalendarField :=
  if ¬ (1 ≤ fields.month ∧ fields.month ≤ 12) then some .month
  else if ¬ IsCalendarDate fields.year fields.month fields.day then some .dayOfMonth
  else if ¬ (0 ≤ fields.hour ∧ fields.hour ≤ 23) then some .hourOfDay
  else if ¬ (0 ≤ fields.minute ∧ fields.minute ≤ 59) then some .minute
  else if ¬ (0 ≤ fields.second ∧ fields.second ≤ 59) then some .second
  else if ¬ (0 ≤ fields.millisecond ∧ fields.millisecond ≤ 999) then some .millisecond
  else none

/-- The error that refuses a field. -/
def overflowError (fields : LocalFields) (field : CalendarField) : Error :=
  .fieldOutOfRange field fields.year fields.month fields.day fields.hour fields.minute
    fields.second fields.millisecond

/-- The milliseconds from 1970-01-01 00:00 to fields of the calendar, both local. -/
def exactMillis (fields : LocalFields) : Int :=
  fields.date.absoluteDay * Clock.millisPerDay + fields.clock.millis

/-- The milliseconds from 1970-01-01 00:00 to any fields, both local: what exceeds a field is
carried into the next larger one. -/
def carriedMillis (fields : LocalFields) : Int :=
  let months := fields.year * 12 + fields.month - 1
  let firstOfMonth := Date.pack (wrapInt32 (months / 12)) (months % 12 + 1) 1
  (firstOfMonth.absoluteDay + fields.day - 1) * Clock.millisPerDay + fields.clock.millis

/-- The local milliseconds of fields of the calendar as they are stored, in 64 bits. -/
def strictMillis (fields : LocalFields) : Int := wrapInt64 fields.exactMillis

/-- The local milliseconds of any fields as they are stored, in 64 bits. -/
def lenientMillis (fields : LocalFields) : Int := wrapInt64 fields.carriedMillis

end LocalFields

end CivilTime
