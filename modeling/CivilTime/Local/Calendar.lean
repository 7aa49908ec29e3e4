import CivilTime.Local.Fields
import CivilTime.Zone.Basic

/-!
# Local fields and instants in a zone

Instants are milliseconds after 1970-01-01 00:00 UTC. From an instant to local fields there is one
way. Back there are two modes: strictly, a field outside its range is refused, and so is the hour
of a time that the zone skipped; leniently, fields are carried, and a skipped time is taken with
the offset from before the change. A time that was shown twice is taken in standard time if only
one of the two is standard time, and the first time otherwise.

Instants and local milliseconds are stored in 64 bits. Close to the ends of these a shift by the
offset wraps, in either direction.
-/

set_option autoImplicit false

namespace CivilTime

/-- How fields that are no time of the zone are treated. -/
inductive Strictness where
  | strict
  | lenient
deriving DecidableEq, Repr

/-- Of the two records of a repeated time, the first, unless only the second is standard time. -/
def preferStandard (first second : LocalRecord) : LocalRecord :=
  if first.isDst = true ∧ second.isDst = false then second else first

namespace Zone

/-- The local milliseconds of fields. -/
def localMillis (mode : Strictness) (fields : LocalFields) : Except Error Int :=
  match mode with
  | .lenient => .ok fields.lenientMillis
  | .strict =>
    match fields.firstOverflow? with
    | some field => .error (fields.overflowError field)
    | none => .ok fields.strictMillis

/-- The record under which a local time is taken. -/
def chooseRecord (mode : Strictness) : CandidateOffsets → Except Error LocalRecord
  | .one record => .ok record
  | .two first second => .ok (preferStandard first second)
  | .gap before _ =>
    match mode with
    | .lenient => .ok before
    | .strict => .error .skippedLocalTime

/-- The instant of local fields. -/
def instantOf (source : ZoneSource) (zone : Zone) (mode : Strictness) (fields : LocalFields) :
    Except Error Int :=
  match localMillis mode fields with
  | .error e => .error e
  | .ok millis =>
    match zone.candidateOffsets source (millis / 1000) with
    | .error e => .error e
    | .ok candidates =>
      match chooseRecord mode candidates with
      | .error e => .error e
      | .ok record => .ok (wrapInt64 (millis - record.offset * 1000))

/-- The local fields of an instant. -/
def fieldsAt (source : ZoneSource) (zone : Zone) (instant : Int) : Except Error LocalFields :=
  match zone.offsetAt source (instant / 1000) with
  | .error e => .error e
  | .ok record =>
    let millis := wrapInt64 (instant + record.offset * 1000)
    .ok (.ofDateMillis (.ofAbsoluteDay (millis / Clock.millisPerDay))
      (millis % Clock.millisPerDay))

end Zone

/-- A computation that is set up step by step: a zone, a mode, and the fields once they are set. -/
structure ZoneCalendar where
  zone : Zone
  mode : Strictness
  fields : Option LocalFields
deriving DecidableEq, Repr

namespace ZoneCalendar

/-- A strict computation without fields. -/
def new (zone : Zone) : ZoneCalendar := ⟨zone, .strict, none⟩

/-- Forgets the fields. -/
def clear (calendar : ZoneCalendar) : ZoneCalendar := { calendar with fields := none }

/-- Sets the fields. -/
def set (calendar : ZoneCalendar) (fields : LocalFields) : ZoneCalendar :=
  { calendar with fields := some fields }

/-- Sets the mode. -/
def setMode (calendar : ZoneCalendar) (mode : Strictness) : ZoneCalendar :=
  { calendar with mode := mode }

/-- The instant of the fields; to ask before they are set is a mistake. -/
def instant (calendar : ZoneCalendar) (source : ZoneSource) : Except Error Int :=
  match calendar.fields with
  | none => .error .assertion
  | some fields => calendar.zone.instantOf source calendar.mode fields

/-- The local fields of an instant. -/
def fieldsAt (calendar : ZoneCalendar) (source : ZoneSource) (instant : Int) :
    Except Error LocalFields :=
  calendar.zone.fieldsAt source instant

end ZoneCalendar

end CivilTime
