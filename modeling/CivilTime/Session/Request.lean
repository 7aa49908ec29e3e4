import CivilTime.Session.Basic

/-!
# Requests to a session

A session answers one request after the other, and goes on after a request that failed. Beside it
stands what a context answers on its own, and the context that is left after a request, of which
only the default zone ever changes.
-/

set_option autoImplicit false

namespace CivilTime

/-- What a session can be asked. -/
inductive Request where
  | toInstant (zone : Option Zone) (fields : LocalFields)
  | dateTimeToInstant (zone : Option Zone) (date : Date) (millisOfDay : Int)
  | dateToInstant (zone : Option Zone) (date : Date)
  | timeToInstant (nanos : Int)
  | timestampToEpochNanos (zone : Option Zone) (date : Date) (nanos : Int)
  | dateAt (instant : Int)
  | nanosAt (instant : Int)
  | timestampAt (zone : Option Zone) (epochNanos : Int)
  | offsetSecondsAt (zone : Option Zone) (instant : Int)
  | localWithoutDst (instant : Int)
  | utcWithoutDst (millis : Int)
  | resetDefaultZone (zone : DefaultZone)
  | defaultZone
  | readLiteral (dialect : Dialect) (kind : LiteralKind) (text : List Char)

/-- What a session answers. -/
inductive Answer where
  | number (value : Int)
  /-- An instant in nanoseconds. -/
  | epochNanos (value : Int)
  | date (date : Date)
  | timestamp (date : Date) (nanos : Int)
  | literal (literal : Literal)
  | defaultZone (zone : DefaultZone)
deriving DecidableEq, Repr

namespace Context

/-- The answer to a request. -/
def answer (ctx : Context) : Request → Except Error Answer
  | .toInstant zone fields => (ctx.toInstant zone fields).map .number
  | .dateTimeToInstant zone date millisOfDay =>
    (ctx.dateTimeToInstant zone date millisOfDay).map .number
  | .dateToInstant zone date => (ctx.dateToInstant zone date).map .number
  | .timeToInstant nanos => (ctx.timeToInstant nanos).map .number
  | .timestampToEpochNanos zone date nanos =>
    (ctx.timestampToEpochNanos zone date nanos).map .epochNanos
  | .dateAt instant => (ctx.dateAt instant).map .date
  | .nanosAt instant => (ctx.nanosAt instant).map .number
  | .timestampAt zone epochNanos =>
    (ctx.timestampAt zone epochNanos).map fun (date, nanos) => .timestamp date nanos
  | .offsetSecondsAt zone instant => (ctx.offsetSecondsAt zone instant).map .number
  | .localWithoutDst instant => .ok (.number (ctx.localWithoutDst instant))
  | .utcWithoutDst millis => .ok (.number (ctx.utcWithoutDst millis))
  | .resetDefaultZone zone => .ok (.defaultZone zone)
  | .defaultZone => .ok (.defaultZone ctx.defaultZone)
  | .readLiteral dialect kind text => (ctx.readLiteral dialect kind text).map .literal

/-- The context after a request. -/
def next (ctx : Context) : Request → Context
  | .resetDefaultZone zone => { ctx with defaultZone := zone }
  | _ => ctx

end Context

namespace Session

/-- What is done to answer a request. -/
def answer : Request → Action Answer
  | .toInstant zone fields => Answer.number <$> toInstant zone fields
  | .dateTimeToInstant zone date millisOfDay =>
    Answer.number <$> dateTimeToInstant zone date millisOfDay
  | .dateToInstant zone date => Answer.number <$> dateToInstant zone date
  | .timeToInstant nanos => Answer.number <$> timeToInstant nanos
  | .timestampToEpochNanos zone date nanos =>
    Answer.epochNanos <$> timestampToEpochNanos zone date nanos
  | .dateAt instant => Answer.date <$> dateAt instant
  | .nanosAt instant => Answer.number <$> nanosAt instant
  | .timestampAt zone epochNanos =>
    (fun (date, nanos) => Answer.timestamp date nanos) <$> timestampAt zone epochNanos
  | .offsetSecondsAt zone instant => Answer.number <$> offsetSecondsAt zone instant
  | .localWithoutDst instant => ask fun ctx => .ok (.number (ctx.localWithoutDst instant))
  | .utcWithoutDst millis => ask fun ctx => .ok (.number (ctx.utcWithoutDst millis))
  | .resetDefaultZone zone => do
    resetDefaultZone zone
    return .defaultZone zone
  | .defaultZone => ask fun ctx => .ok (.defaultZone ctx.defaultZone)
  | .readLiteral dialect kind text => Answer.literal <$> readLiteral dialect kind text

/-- The answer to a request, and the session afterwards. -/
def respond (session : Session) (request : Request) : Except Error Answer × Session :=
  answer request session

/-- The answers to requests, one after the other. -/
def run (session : Session) : List Request → List (Except Error Answer)
  | [] => []
  | request :: requests =>
    (session.respond request).1 :: run (session.respond request).2 requests

end Session

end CivilTime
