import CivilTime.Clock.Reader
import CivilTime.Date.Reader
import CivilTime.Literal.Basic
import CivilTime.Local.Context

/-!
# Reading literals

A timestamp is a date, a separator, a time, and possibly what tells its zone: a `Z`, an offset
right after the time, or the name of a zone after a space. A text without a separator is a date
at midnight. A timestamp whose offset is wanted keeps its local fields; any other one that tells
its zone is taken to the default zone.
-/

set_option autoImplicit false

namespace CivilTime

open CivilTime.Text

/-- What tells the zone of a timestamp. -/
inductive ZoneDesignator where
  /-- A `Z` at the end. -/
  | utc
  /-- An offset, from its sign to the end of the text. -/
  | offset (text : List Char)
  /-- The name of a zone. -/
  | named (name : List Char)
deriving DecidableEq, Repr

namespace ZoneDesignator

/-- The zone that is meant. -/
def resolve (source : ZoneSource) : ZoneDesignator → Except Error Zone
  | .utc => .ok .utc
  | .offset text => Zone.ofDesignator text
  | .named name => Zone.ofName source (String.ofList name)

/-- The text of the time and what tells the zone, out of the text after the date. A `Z` at the end
counts first, then a sign before the first space, a plus before a minus; so the dashes in the
name of a zone are no signs. -/
def splitOff (text : List Char) : List Char × Option ZoneDesignator :=
  if text.getLast? = some 'Z' then (text.dropLast, some .utc)
  else
    let head := text.takeWhile (· != ' ')
    if '+' ∈ head then
      (text.takeWhile (· != '+'), some (.offset (text.dropWhile (· != '+'))))
    else if '-' ∈ head then
      (text.takeWhile (· != '-'), some (.offset (text.dropWhile (· != '-'))))
    else
      match cut ' ' text with
      | some (time, name) => (time, some (.named name))
      | none => (text, none)

end ZoneDesignator

/-- The texts of the date and of what follows the separator: the first space, else the first `T`,
else, if the dialect has it, the third dash after the sign of the year. -/
def splitDateTime (dialect : Dialect) (text : List Char) : Option (List Char × List Char) :=
  match cut ' ' text with
  | some halves => some halves
  | none =>
    match cut 'T' text with
    | some halves => some halves
    | none =>
      if dialect.dashDateTimeSeparator then
        match text with
        | '+' :: rest => (cutNth '-' 2 rest).map fun (date, time) => ('+' :: date, time)
        | '-' :: rest => (cutNth '-' 2 rest).map fun (date, time) => ('-' :: date, time)
        | _ => cutNth '-' 2 text
      else none

/-- A timestamp as it is written: a local date and time, and the zone that is told, if any is. -/
structure WrittenTimestamp where
  date : Date
  nanos : Int
  zone : Option Zone
deriving DecidableEq, Repr

namespace WrittenTimestamp

/-- The timestamp that a text is. The date is looked at first, then the time, then the zone. -/
def read (source : ZoneSource) (dialect : Dialect) (text : List Char) :
    Except Error WrittenTimestamp :=
  match splitDateTime dialect text with
  | none =>
    match Date.read text with
    | .error e => .error e
    | .ok date => .ok ⟨date, 0, none⟩
  | some (dateText, rest) =>
    match Date.read dateText with
    | .error e => .error e
    | .ok date =>
      match Clock.read .timeOfDay (ZoneDesignator.splitOff rest).1 with
      | .error e => .error e
      | .ok nanos =>
        match (ZoneDesignator.splitOff rest).2 with
        | none => .ok ⟨date, nanos, none⟩
        | some designator =>
          match designator.resolve source with
          | .error e => .error e
          | .ok zone => .ok ⟨date, nanos, some zone⟩

/-- The literal of a timestamp that tells no zone. -/
def zoneless (written : WrittenTimestamp) (wantOffset : Bool) : Literal :=
  if wantOffset then .timestampWithOffset written.date written.nanos 0
  else .timestamp written.date written.nanos

end WrittenTimestamp

namespace Context

/-- The offset in minutes that a zone has at a local date and time. -/
def offsetMinutesOf (ctx : Context) (zone : Zone) (date : Date) (nanos : Int) : Except Error Int :=
  match zone with
  | .utc => .ok 0
  | zone =>
    match ctx.dateTimeToInstant (some zone) date (nanos.tdiv Clock.nanosPerMilli) with
    | .error e => .error e
    | .ok instant =>
      match ctx.offsetSecondsAt (some zone) instant with
      | .error e => .error e
      | .ok seconds => .ok (seconds.tdiv 60)

/-- A local date and time of a zone in the default zone. The nanoseconds below a millisecond are
the same in every zone. -/
def inDefaultZone (ctx : Context) (zone : Zone) (date : Date) (nanos : Int) :
    Except Error Literal :=
  match ctx.dateTimeToInstant (some zone) date (nanos.tdiv Clock.nanosPerMilli) with
  | .error e => .error e
  | .ok instant =>
    match ctx.dateAt instant with
    | .error e => .error e
    | .ok localDate =>
      match ctx.nanosAt instant with
      | .error e => .error e
      | .ok localNanos =>
        .ok (.timestamp localDate (nanos.tmod Clock.nanosPerMilli + localNanos))

/-- The timestamp of a date and a time in a zone that was told. -/
def zonedTimestamp (ctx : Context) (wantOffset : Bool) (zone : Zone) (date : Date) (nanos : Int) :
    Except Error Literal :=
  if wantOffset then
    match ctx.offsetMinutesOf zone date nanos with
    | .error e => .error e
    | .ok minutes => .ok (.timestampWithOffset date nanos minutes)
  else ctx.inDefaultZone zone date nanos

/-- The timestamp of a text, with its offset if that is wanted. -/
def readTimestamp (ctx : Context) (dialect : Dialect) (wantOffset : Bool) (text : List Char) :
    Except Error Literal :=
  match WrittenTimestamp.read ctx.source dialect text with
  | .error e => .error e
  | .ok written =>
    match written.zone with
    | none => .ok (written.zoneless wantOffset)
    | some zone => ctx.zonedTimestamp wantOffset zone written.date written.nanos

/-- The literal of a text. -/
def readLiteral (ctx : Context) (dialect : Dialect) (kind : LiteralKind) (text : List Char) :
    Except Error Literal :=
  match kind with
  | .date => (Date.read text).map Literal.date
  | .time => (Clock.read .timeOfDay text).map Literal.time
  | .timestamp => ctx.readTimestamp dialect false text
  | .timestampWithTimeZone => ctx.readTimestamp dialect true text

end Context

end CivilTime
