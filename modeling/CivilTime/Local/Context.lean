import CivilTime.Local.Calendar
import CivilTime.Local.DefaultZone

/-!
# Conversions with a default zone

A context has a source of zone data and a default zone, and converts between instants and local
times in any zone. Instants are milliseconds after 1970-01-01 00:00 UTC unless their name says
nanoseconds.
-/

set_option autoImplicit false

namespace CivilTime

/-- A source of zone data and a default zone. -/
structure Context where
  source : ZoneSource
  defaultZone : DefaultZone

namespace Context

/-- The zone that is given, or the default zone. -/
def zoneOr (ctx : Context) (zone : Option Zone) : Zone := zone.getD ctx.defaultZone.zone

/-- How long after a local time whose day the calendar left out a lenient computation starts. -/
def dayOfMonthHopHours : Int := 6

/-- The fields with which a computation that was refused strictly is repeated leniently, if it is.
A skipped hour is repeated as it is, and an hour that no day has is not repeated. A day that the
month has, but the calendar left out, is repeated six hours later. Other fields are carried. -/
def retryFields? (fields : LocalFields) (e : Error) : Option LocalFields :=
  match e.overflowField? with
  | none => none
  | some .hourOfDay => if 0 ≤ fields.hour ∧ fields.hour ≤ 23 then some fields else none
  | some .dayOfMonth =>
    if 1 ≤ fields.day ∧ fields.day ≤ daysInMonth fields.year fields.month then
      some { fields with hour := wrapInt32 (fields.hour + dayOfMonthHopHours) }
    else none
  | some _ => some fields

/-- The instant of local fields. -/
def toInstant (ctx : Context) (zone : Option Zone) (fields : LocalFields) : Except Error Int :=
  match (ctx.zoneOr zone).instantOf ctx.source .strict fields with
  | .ok instant => .ok instant
  | .error e =>
    match retryFields? fields e with
    | none => .error e
    | some fields => (ctx.zoneOr zone).instantOf ctx.source .lenient fields

/-- The instant of a date and a number of milliseconds of its day. -/
def dateTimeToInstant (ctx : Context) (zone : Option Zone) (date : Date) (millisOfDay : Int) :
    Except Error Int :=
  ctx.toInstant zone (.ofDateMillis date millisOfDay)

/-- The instant of the start of a date. -/
def dateToInstant (ctx : Context) (zone : Option Zone) (date : Date) : Except Error Int :=
  ctx.dateTimeToInstant zone date 0

/-- The instant of a time on 1970-01-01 in the default zone. -/
def timeToInstant (ctx : Context) (nanos : Int) : Except Error Int :=
  ctx.toInstant none (.ofTimeOfDay nanos)

/-- The instant, in nanoseconds, of a date and a number of nanoseconds of its day. -/
def timestampToEpochNanos (ctx : Context) (zone : Option Zone) (date : Date) (nanos : Int) :
    Except Error Int :=
  match ctx.dateTimeToInstant zone date (nanos.tdiv Clock.nanosPerMilli) with
  | .error e => .error e
  | .ok instant => .ok (instant * Clock.nanosPerMilli + nanos.tmod Clock.nanosPerMilli)

/-- The local fields of an instant. -/
def fieldsAt (ctx : Context) (zone : Option Zone) (instant : Int) : Except Error LocalFields :=
  (ctx.zoneOr zone).fieldsAt ctx.source instant

/-- The date of an instant in the default zone. -/
def dateAt (ctx : Context) (instant : Int) : Except Error Date :=
  match ctx.fieldsAt none instant with
  | .error e => .error e
  | .ok fields => .ok fields.date

/-- The nanoseconds of the day of an instant in the default zone. -/
def nanosAt (ctx : Context) (instant : Int) : Except Error Int :=
  match ctx.fieldsAt none instant with
  | .error e => .error e
  | .ok fields => .ok fields.nanosOfDay

/-- The date and the nanoseconds of its day of an instant in nanoseconds. -/
def timestampAt (ctx : Context) (zone : Option Zone) (epochNanos : Int) :
    Except Error (Date × Int) :=
  let instant := epochNanos / Clock.nanosPerMilli
  if FitsInt64 instant then
    match ctx.fieldsAt zone instant with
    | .error e => .error e
    | .ok fields => .ok (fields.date, fields.nanosOfDay + epochNanos % Clock.nanosPerMilli)
  else .error .instantOutOfRange

/-- The offset in seconds at an instant. -/
def offsetSecondsAt (ctx : Context) (zone : Option Zone) (instant : Int) : Except Error Int :=
  match (ctx.zoneOr zone).offsetAt ctx.source (instant / 1000) with
  | .error e => .error e
  | .ok record => .ok record.offset

/-- An instant as milliseconds of the standard time of the default zone. -/
def localWithoutDst (ctx : Context) (instant : Int) : Int :=
  wrapInt64 (instant + ctx.defaultZone.standardOffsetMillis)

/-- The instant of milliseconds of the standard time of the default zone. -/
def utcWithoutDst (ctx : Context) (millis : Int) : Int :=
  wrapInt64 (millis - ctx.defaultZone.standardOffsetMillis)

end Context

end CivilTime
