import CivilTime.Literal.Reader

/-!
# Sessions

A session makes the conversions of a context over and over, and reuses calendars for them: it
keeps one of the default zone, and one of the zone that it was told last. Whatever a conversion
leaves behind in a calendar, also one that failed, the next one sets anew, so that the answers are
those of the context.
-/

set_option autoImplicit false

namespace CivilTime

/-- A context and the calendars that are kept for it. -/
structure Session where
  context : Context
  /-- The calendar of the default zone. -/
  defaultCalendar : ZoneCalendar
  /-- The calendar of the zone that was told last. -/
  zoneCalendar : Option ZoneCalendar

namespace Session

/-- What is done in a session: it succeeds or fails, and leaves the session behind either way. -/
abbrev Action (α : Type) := ExceptT Error (StateM Session) α

/-- A session that has not converted anything yet. -/
def new (ctx : Context) : Session := ⟨ctx, .new ctx.defaultZone.zone, none⟩

/-- The calendar of a zone, or of the default zone, without fields. A zone other than the last one
gets a new calendar. -/
def calendarOf (session : Session) : Option Zone → ZoneCalendar
  | none => session.defaultCalendar.clear
  | some zone =>
    match session.zoneCalendar with
    | none => .new zone
    | some calendar => if calendar.zone = zone then calendar.clear else .new zone

/-- The session with the calendar of a zone, or of the default zone, put back. -/
def keep (session : Session) (calendar : ZoneCalendar) : Option Zone → Session
  | none => { session with defaultCalendar := calendar }
  | some _ => { session with zoneCalendar := some calendar }

/-- What the context answers without a calendar. -/
def ask {α : Type} (question : Context → Except Error α) : Action α := fun session =>
  (question session.context, session)

/-- The instant of local fields, computed strictly and, where that was refused and the fields allow
it, once more leniently. -/
def toInstant (zone : Option Zone) (fields : LocalFields) : Action Int := fun session =>
  let calendar := ((session.calendarOf zone).setMode .strict).set fields
  match calendar.instant session.context.source with
  | .ok instant => (.ok instant, session.keep calendar zone)
  | .error e =>
    match Context.retryFields? fields e with
    | none => (.error e, session.keep calendar zone)
    | some fields =>
      let calendar := (calendar.clear.setMode .lenient).set fields
      (calendar.instant session.context.source, session.keep calendar zone)

/-- The local fields of an instant. -/
def fieldsAt (zone : Option Zone) (instant : Int) : Action LocalFields := fun session =>
  let calendar := session.calendarOf zone
  (calendar.fieldsAt session.context.source instant, session.keep calendar zone)

/-- The instant of a date and a number of milliseconds of its day. -/
def dateTimeToInstant (zone : Option Zone) (date : Date) (millisOfDay : Int) : Action Int :=
  toInstant zone (.ofDateMillis date millisOfDay)

/-- The instant of the start of a date. -/
def dateToInstant (zone : Option Zone) (date : Date) : Action Int :=
  dateTimeToInstant zone date 0

/-- The instant of a time on 1970-01-01 in the default zone. -/
def timeToInstant (nanos : Int) : Action Int := toInstant none (.ofTimeOfDay nanos)

/-- The instant, in nanoseconds, of a date and a number of nanoseconds of its day. -/
def timestampToEpochNanos (zone : Option Zone) (date : Date) (nanos : Int) : Action Int := do
  let instant ← dateTimeToInstant zone date (nanos.tdiv Clock.nanosPerMilli)
  return instant * Clock.nanosPerMilli + nanos.tmod Clock.nanosPerMilli

/-- The date of an instant in the default zone. -/
def dateAt (instant : Int) : Action Date := do
  let fields ← fieldsAt none instant
  return fields.date

/-- The nanoseconds of the day of an instant in the default zone. -/
def nanosAt (instant : Int) : Action Int := do
  let fields ← fieldsAt none instant
  return fields.nanosOfDay

/-- The date and the nanoseconds of its day of an instant in nanoseconds. -/
def timestampAt (zone : Option Zone) (epochNanos : Int) : Action (Date × Int) := do
  let instant := epochNanos / Clock.nanosPerMilli
  if FitsInt64 instant then
    let fields ← fieldsAt zone instant
    return (fields.date, fields.nanosOfDay + epochNanos % Clock.nanosPerMilli)
  else throw .instantOutOfRange

/-- The offset in seconds at an instant. -/
def offsetSecondsAt (zone : Option Zone) (instant : Int) : Action Int :=
  ask fun ctx => ctx.offsetSecondsAt zone instant

/-- Takes another default zone, with a new calendar. -/
def resetDefaultZone (zone : DefaultZone) : Action Unit := fun session =>
  (.ok (), { session with
    context := { session.context with defaultZone := zone }
    defaultCalendar := .new zone.zone })

/-- The offset in minutes that a zone has at a local date and time. -/
def offsetMinutesOf (zone : Zone) (date : Date) (nanos : Int) : Action Int :=
  match zone with
  | .utc => return 0
  | zone => do
    let instant ← dateTimeToInstant (some zone) date (nanos.tdiv Clock.nanosPerMilli)
    let seconds ← offsetSecondsAt (some zone) instant
    return seconds.tdiv 60

/-- A local date and time of a zone in the default zone. -/
def inDefaultZone (zone : Zone) (date : Date) (nanos : Int) : Action Literal := do
  let instant ← dateTimeToInstant (some zone) date (nanos.tdiv Clock.nanosPerMilli)
  let localDate ← dateAt instant
  let localNanos ← nanosAt instant
  return .timestamp localDate (nanos.tmod Clock.nanosPerMilli + localNanos)

/-- The timestamp of a date and a time in a zone that was told. -/
def zonedTimestamp (wantOffset : Bool) (zone : Zone) (date : Date) (nanos : Int) :
    Action Literal :=
  if wantOffset then do
    let minutes ← offsetMinutesOf zone date nanos
    return .timestampWithOffset date nanos minutes
  else inDefaultZone zone date nanos

/-- The timestamp of a text, with its offset if that is wanted. -/
def readTimestamp (dialect : Dialect) (wantOffset : Bool) (text : List Char) :
    Action Literal := do
  let written ← ask fun ctx => WrittenTimestamp.read ctx.source dialect text
  match written.zone with
  | none => return written.zoneless wantOffset
  | some zone => zonedTimestamp wantOffset zone written.date written.nanos

/-- The literal of a text. -/
def readLiteral (dialect : Dialect) (kind : LiteralKind) (text : List Char) : Action Literal :=
  match kind with
  | .date => ask fun _ => (Date.read text).map Literal.date
  | .time => ask fun _ => (Clock.read .timeOfDay text).map Literal.time
  | .timestamp => readTimestamp dialect false text
  | .timestampWithTimeZone => readTimestamp dialect true text

end Session

end CivilTime
