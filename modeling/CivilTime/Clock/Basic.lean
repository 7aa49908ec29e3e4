import CivilTime.Date.AbsoluteDay

/-!
# Clock times

A time is a signed number of nanoseconds. A time of day lies within one day; an interval may have
either sign and any length. Main statement: normalising a day and a number of nanoseconds keeps
their sum (`total_normalize`).
-/

set_option autoImplicit false

namespace CivilTime.Clock

def nanosPerMilli : Int := 1000000

def nanosPerSecond : Int := 1000000000

def nanosPerMinute : Int := 60000000000

def nanosPerHour : Int := 3600000000000

def nanosPerDay : Int := 86400000000000

def millisPerDay : Int := 86400000

def secondsPerDay : Int := 86400

/-- The fields of a time. The hour is not limited to those of a day. -/
structure Fields where
  hour : Int
  minute : Int
  second : Int
  millisecond : Int
deriving DecidableEq, Repr

/-- The fields of a number of nanoseconds, each cut off towards zero. -/
def split (nanos : Int) : Fields where
  hour := nanos.tdiv nanosPerHour
  minute := (nanos.tdiv nanosPerMinute).tmod 60
  second := (nanos.tdiv nanosPerSecond).tmod 60
  millisecond := (nanos.tdiv nanosPerMilli).tmod 1000

/-- The milliseconds of fields, none of which needs to be in its usual range. -/
def Fields.millis (fields : Fields) : Int :=
  fields.hour * 3600000 + fields.minute * 60000 + fields.second * 1000 + fields.millisecond

/-- The nanoseconds of fields, none of which needs to be in its usual range. -/
def Fields.nanos (fields : Fields) : Int := fields.millis * nanosPerMilli

/-- A day number and a time with whole days of the time moved into the day number, which stays at
the ends of its 64 bits. -/
def normalize (absoluteDay nanos : Int) : Int × Int :=
  (saturateInt64 (absoluteDay + nanos / nanosPerDay), nanos % nanosPerDay)

/-- The date and the time of day of a day number and a number of nanoseconds. -/
def normalizeTimestamp (absoluteDay nanos : Int) : Date × Int :=
  let (day, rest) := normalize absoluteDay nanos
  (Date.ofAbsoluteDay day, rest)

/-- A time within a day. -/
def IsTimeOfDay (nanos : Int) : Prop := 0 ≤ nanos ∧ nanos < nanosPerDay

instance (nanos : Int) : Decidable (IsTimeOfDay nanos) :=
  inferInstanceAs (Decidable (_ ∧ _))

/-- What is left after whole days have been moved is a time of day. -/
theorem isTimeOfDay_normalize (absoluteDay nanos : Int) :
    IsTimeOfDay (normalize absoluteDay nanos).2 := by
  unfold IsTimeOfDay normalize nanosPerDay
  omega

/-- Moving whole days keeps the sum of days and time. -/
theorem total_normalize {absoluteDay nanos : Int}
    (h : FitsInt64 (absoluteDay + nanos / nanosPerDay)) :
    (normalize absoluteDay nanos).1 * nanosPerDay + (normalize absoluteDay nanos).2 =
      absoluteDay * nanosPerDay + nanos := by
  simp only [normalize, saturateInt64_of_fits h]
  unfold nanosPerDay
  omega

end CivilTime.Clock
