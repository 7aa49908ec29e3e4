import CivilTime.Clock.Basic
import CivilTime.Date.Week
import CivilTime.Literal.Basic

/-!
# Single fields

Dates and times are asked for single fields by name. Time fields wrap within their unit, so the
hour of an interval of more than a day is what is left after whole days.
-/

set_option autoImplicit false

namespace CivilTime

/-- What can be asked for. -/
inductive DateField where
  | year
  | month
  | dayOfMonth
  | hour
  | minute
  | second
  | millisecond
  | dayOfYear
  /-- Sunday is `1`. -/
  | dayOfWeek
  /-- The week under the rules of the caller. -/
  | week
  | quarter
  | isoYear
  | isoWeek
  /-- Monday is `1`. -/
  | isoDayOfWeek
deriving DecidableEq, Repr

namespace DateField

/-- All fields. -/
def all : List DateField :=
  [.year, .month, .dayOfMonth, .hour, .minute, .second, .millisecond, .dayOfYear, .dayOfWeek,
    .week, .quarter, .isoYear, .isoWeek, .isoDayOfWeek]

/-- The name of a field. -/
def name : DateField → String
  | .year => "YEAR"
  | .month => "MONTH"
  | .dayOfMonth => "DAY_OF_MONTH"
  | .hour => "HOUR"
  | .minute => "MINUTE"
  | .second => "SECOND"
  | .millisecond => "MILLISECOND"
  | .dayOfYear => "DAY_OF_YEAR"
  | .dayOfWeek => "DAY_OF_WEEK"
  | .week => "WEEK"
  | .quarter => "QUARTER"
  | .isoYear => "ISO_YEAR"
  | .isoWeek => "ISO_WEEK"
  | .isoDayOfWeek => "ISO_DAY_OF_WEEK"

/-- The field of a name. -/
def ofName (name : String) : Except NameError DateField :=
  match all.find? fun field => field.name == name with
  | some field => .ok field
  | none => .error .dateField

end DateField

/-- The field of a date and a time. -/
def datePart (date : Date) (nanos : Int) (rules : WeekRules) : DateField → Int
  | .year => date.year
  | .month => date.month
  | .dayOfMonth => date.day
  | .hour => (Clock.split nanos).hour.tmod 24
  | .minute => (Clock.split nanos).minute
  | .second => (Clock.split nanos).second
  | .millisecond => (Clock.split nanos).millisecond
  | .dayOfYear => date.dayOfYear
  | .dayOfWeek => date.sundayWeekday
  | .week => date.weekOfYear rules
  | .quarter => (date.month - 1).tdiv 3 + 1
  | .isoYear => date.isoWeekYear
  | .isoWeek => date.isoWeekOfYear
  | .isoDayOfWeek => date.isoWeekday

/-- The field of a literal. A time has the date 1970-01-01, and a date the time 00:00. -/
def Literal.part (literal : Literal) (rules : WeekRules) (field : DateField) : Int :=
  match literal with
  | .date d => datePart d 0 rules field
  | .time nanos => datePart .epoch nanos rules field
  | .timestamp d nanos => datePart d nanos rules field
  | .timestampWithOffset d nanos _ => datePart d nanos rules field

end CivilTime
