import CivilTime.Proofs.Session.Basic
import CivilTime.Session.Request

/-!
# A session has no memory but its default zone

Of the calendars that a session keeps only one thing matters, that the calendar of the default zone
is one of that zone. Every request keeps this, also one that fails, and is answered as the context
answers it. So what a session answers after other requests is what a new session with the same
default zone answers (`run_new_eq`).
-/

set_option autoImplicit false

namespace CivilTime

/-- In every zone but UTC the offset is measured at the instant of the local time. -/
theorem Context.offsetMinutesOf_eq (ctx : Context) {zone : Zone} (h : zone ≠ .utc) {date : Date}
    {nanos : Int} :
    ctx.offsetMinutesOf zone date nanos =
      (ctx.dateTimeToInstant (some zone) date (nanos.tdiv Clock.nanosPerMilli)).bind fun instant =>
        (ctx.offsetSecondsAt (some zone) instant).bind fun seconds => .ok (seconds.tdiv 60) := by
  unfold offsetMinutesOf
  split
  · exact absurd rfl h
  · cases ctx.dateTimeToInstant (some zone) date (nanos.tdiv Clock.nanosPerMilli) with
    | error e => rfl
    | ok instant =>
      dsimp only [Except.bind]
      cases ctx.offsetSecondsAt (some zone) instant <;> rfl

namespace Session

/-! ## What a session keeps -/

/-- The calendar of the default zone is one of that zone. -/
def IsCoherent (session : Session) : Prop :=
  session.defaultCalendar.zone = session.context.defaultZone.zone

/-- A new session has the calendar of its default zone. -/
theorem isCoherent_new (ctx : Context) : (new ctx).IsCoherent := rfl

/-- The calendar that a session takes for a zone is one of that zone. -/
theorem IsCoherent.zone_calendarOf {session : Session} (h : session.IsCoherent)
    (zone : Option Zone) : (session.calendarOf zone).zone = session.context.zoneOr zone := by
  cases zone with
  | none => exact h
  | some zone => exact Session.zone_calendarOf session zone

/-- Keeping a calendar changes neither the source nor the default zone. -/
theorem context_keep (session : Session) (calendar : ZoneCalendar) (zone : Option Zone) :
    (session.keep calendar zone).context = session.context := by
  cases zone <;> rfl

/-- A calendar may be put back for the zone that it is of. -/
theorem IsCoherent.keep {session : Session} (h : session.IsCoherent) {calendar : ZoneCalendar}
    {zone : Option Zone} (hzone : calendar.zone = session.context.zoneOr zone) :
    (session.keep calendar zone).IsCoherent := by
  cases zone with
  | none => exact hzone
  | some zone => exact h

/-! ## Actions that follow the context -/

/-- The action answers a question to the context, and leaves the context as it was. -/
def Follows {α : Type} (x : Action α) (question : Context → Except Error α) : Prop :=
  ∀ session : Session, session.IsCoherent →
    (x session).1 = question session.context ∧ (x session).2.context = session.context ∧
      (x session).2.IsCoherent

section Combinators

variable {α β : Type} {x : Action α} {question : Context → Except Error α}

/-- An answer that asks nothing follows from every context. -/
theorem follows_pure (a : α) : Follows (pure a) fun _ => .ok a :=
  fun _ h => ⟨rfl, rfl, h⟩

/-- An error that asks nothing follows from every context. -/
theorem follows_throw (e : Error) : Follows (throw e : Action α) fun _ => .error e :=
  fun _ h => ⟨rfl, rfl, h⟩

/-- A question to the context is answered by the context. -/
theorem follows_ask (question : Context → Except Error α) : Follows (ask question) question :=
  fun _ h => ⟨rfl, rfl, h⟩

/-- What follows the context does so step by step. -/
theorem Follows.bind {f : α → Action β} {next : α → Context → Except Error β}
    (hx : Follows x question) (hf : ∀ a, Follows (f a) (next a)) :
    Follows (x >>= f) fun ctx => (question ctx).bind fun a => next a ctx := by
  intro session h
  obtain ⟨hanswer, hcontext, hcoherent⟩ := hx session h
  rw [bind_eq]
  rcases hrun : x session with ⟨answer, after⟩
  rw [hrun] at hanswer hcontext hcoherent
  dsimp only at hanswer hcontext hcoherent ⊢
  rw [← hanswer]
  cases answer with
  | error e => exact ⟨rfl, hcontext, hcoherent⟩
  | ok a =>
    rw [← hcontext]
    exact hf a after hcoherent

/-- An action follows every question that has the same answers. -/
theorem Follows.of_eq {other : Context → Except Error α} (hx : Follows x question)
    (h : ∀ ctx, question ctx = other ctx) : Follows x other :=
  (funext h : question = other) ▸ hx

/-- Changing the answer of an action changes the answer of its question. -/
theorem Follows.map (f : α → β) (hx : Follows x question) :
    Follows (f <$> x) fun ctx => (question ctx).map f := by
  refine (hx.bind fun a => follows_pure (f a)).of_eq fun ctx => ?_
  cases question ctx <;> rfl

end Combinators

/-! ## The operations -/

/-- Kept calendars do not show in the instant of a local time. -/
theorem follows_toInstant (zone : Option Zone) (fields : LocalFields) :
    Follows (toInstant zone fields) fun ctx => ctx.toInstant zone fields := by
  intro session h
  have hzone := h.zone_calendarOf zone
  unfold toInstant Context.toInstant
  simp only [ZoneCalendar.instant, ZoneCalendar.set, ZoneCalendar.setMode, ZoneCalendar.clear, hzone]
  cases (session.context.zoneOr zone).instantOf session.context.source .strict fields with
  | ok instant => exact ⟨rfl, context_keep .., h.keep rfl⟩
  | error e =>
    dsimp only
    cases Context.retryFields? fields e with
    | none => exact ⟨rfl, context_keep .., h.keep rfl⟩
    | some retried => exact ⟨rfl, context_keep .., h.keep rfl⟩

/-- Kept calendars do not show in the local time at an instant. -/
theorem follows_fieldsAt (zone : Option Zone) (instant : Int) :
    Follows (fieldsAt zone instant) fun ctx => ctx.fieldsAt zone instant := by
  intro session h
  have hzone := h.zone_calendarOf zone
  unfold fieldsAt Context.fieldsAt ZoneCalendar.fieldsAt
  refine ⟨?_, context_keep .., h.keep hzone⟩
  dsimp only
  rw [hzone]

/-- Kept calendars do not show in the nanoseconds of a timestamp. -/
theorem follows_timestampToEpochNanos (zone : Option Zone) (date : Date) (nanos : Int) :
    Follows (timestampToEpochNanos zone date nanos) fun ctx =>
      ctx.timestampToEpochNanos zone date nanos := by
  refine ((follows_toInstant zone _).bind fun instant => follows_pure _).of_eq fun ctx => ?_
  unfold Context.timestampToEpochNanos Context.dateTimeToInstant
  cases ctx.toInstant zone (.ofDateMillis date (nanos.tdiv Clock.nanosPerMilli)) <;> rfl

/-- Kept calendars do not show in the date at an instant. -/
theorem follows_dateAt (instant : Int) : Follows (dateAt instant) fun ctx => ctx.dateAt instant := by
  refine ((follows_fieldsAt none instant).bind fun fields => follows_pure _).of_eq fun ctx => ?_
  unfold Context.dateAt
  cases ctx.fieldsAt none instant <;> rfl

/-- Kept calendars do not show in the time of day at an instant. -/
theorem follows_nanosAt (instant : Int) :
    Follows (nanosAt instant) fun ctx => ctx.nanosAt instant := by
  refine ((follows_fieldsAt none instant).bind fun fields => follows_pure _).of_eq fun ctx => ?_
  unfold Context.nanosAt
  cases ctx.fieldsAt none instant <;> rfl

/-- Kept calendars do not show in the timestamp of nanoseconds. -/
theorem follows_timestampAt (zone : Option Zone) (epochNanos : Int) :
    Follows (timestampAt zone epochNanos) fun ctx => ctx.timestampAt zone epochNanos := by
  unfold timestampAt Context.timestampAt
  dsimp only
  split
  · refine ((follows_fieldsAt zone _).bind fun fields => follows_pure _).of_eq fun ctx => ?_
    cases ctx.fieldsAt zone (epochNanos / Clock.nanosPerMilli) <;> rfl
  · exact follows_throw _

/-- Kept calendars do not show in the offset of a timestamp. -/
theorem follows_offsetMinutesOf (zone : Zone) (date : Date) (nanos : Int) :
    Follows (offsetMinutesOf zone date nanos) fun ctx => ctx.offsetMinutesOf zone date nanos := by
  have hasked (zone : Zone) (h : zone ≠ .utc) :=
    ((follows_toInstant (some zone) (.ofDateMillis date (nanos.tdiv Clock.nanosPerMilli))).bind
      fun instant => (follows_ask fun ctx => ctx.offsetSecondsAt (some zone) instant).bind
        fun seconds => follows_pure (seconds.tdiv 60)).of_eq
      fun ctx => (ctx.offsetMinutesOf_eq h).symm
  cases zone with
  | utc => exact follows_pure 0
  | fixed offset => exact hasked (.fixed offset) nofun
  | named name => exact hasked (.named name) nofun

/-- Kept calendars do not show in a timestamp that is brought to the default zone. -/
theorem follows_inDefaultZone (zone : Zone) (date : Date) (nanos : Int) :
    Follows (inDefaultZone zone date nanos) fun ctx => ctx.inDefaultZone zone date nanos := by
  refine ((follows_toInstant (some zone) _).bind fun instant =>
    (follows_dateAt instant).bind fun localDate =>
      (follows_nanosAt instant).bind fun localNanos => follows_pure _).of_eq fun ctx => ?_
  unfold Context.inDefaultZone Context.dateTimeToInstant
  cases ctx.toInstant (some zone) (.ofDateMillis date (nanos.tdiv Clock.nanosPerMilli)) with
  | error e => rfl
  | ok instant =>
    dsimp only [Except.bind]
    cases ctx.dateAt instant with
    | error e => rfl
    | ok localDate =>
      dsimp only
      cases ctx.nanosAt instant <;> rfl

/-- Kept calendars do not show in a timestamp with a zone. -/
theorem follows_zonedTimestamp (wantOffset : Bool) (zone : Zone) (date : Date) (nanos : Int) :
    Follows (zonedTimestamp wantOffset zone date nanos) fun ctx =>
      ctx.zonedTimestamp wantOffset zone date nanos := by
  cases wantOffset with
  | true =>
    refine ((follows_offsetMinutesOf zone date nanos).bind fun minutes =>
      follows_pure _).of_eq fun ctx => ?_
    unfold Context.zonedTimestamp
    cases ctx.offsetMinutesOf zone date nanos <;> rfl
  | false => exact follows_inDefaultZone zone date nanos

/-- Kept calendars do not show in what is made of a written timestamp. -/
theorem follows_writtenTimestamp (wantOffset : Bool) (written : WrittenTimestamp) :
    Follows
      (match written.zone with
        | none => pure (written.zoneless wantOffset)
        | some zone => zonedTimestamp wantOffset zone written.date written.nanos)
      fun ctx =>
        match written.zone with
        | none => .ok (written.zoneless wantOffset)
        | some zone => ctx.zonedTimestamp wantOffset zone written.date written.nanos := by
  cases written.zone with
  | none => exact follows_pure _
  | some zone => exact follows_zonedTimestamp wantOffset zone written.date written.nanos

/-- Kept calendars do not show in a timestamp that is read. -/
theorem follows_readTimestamp (dialect : Dialect) (wantOffset : Bool) (text : List Char) :
    Follows (readTimestamp dialect wantOffset text) fun ctx =>
      ctx.readTimestamp dialect wantOffset text := by
  refine ((follows_ask _).bind (follows_writtenTimestamp wantOffset)).of_eq fun ctx => ?_
  unfold Context.readTimestamp
  cases WrittenTimestamp.read ctx.source dialect text <;> rfl

/-- Kept calendars do not show in any literal that is read. -/
theorem follows_readLiteral (dialect : Dialect) (kind : LiteralKind) (text : List Char) :
    Follows (readLiteral dialect kind text) fun ctx => ctx.readLiteral dialect kind text := by
  cases kind with
  | date => exact follows_ask _
  | time => exact follows_ask _
  | timestamp => exact follows_readTimestamp dialect false text
  | timestampWithTimeZone => exact follows_readTimestamp dialect true text

/-! ## Requests -/

/-- A request is answered as the context answers it, and changes the context as it is said to. -/
theorem respond_spec {session : Session} (h : session.IsCoherent) (request : Request) :
    (session.respond request).1 = session.context.answer request ∧
      (session.respond request).2.context = session.context.next request ∧
      (session.respond request).2.IsCoherent := by
  cases request with
  | toInstant zone fields => exact (follows_toInstant zone fields).map _ session h
  | dateTimeToInstant zone date millis => exact (follows_toInstant zone _).map _ session h
  | dateToInstant zone date => exact (follows_toInstant zone _).map _ session h
  | timeToInstant nanos => exact (follows_toInstant none _).map _ session h
  | timestampToEpochNanos zone date nanos =>
    exact (follows_timestampToEpochNanos zone date nanos).map _ session h
  | dateAt instant => exact (follows_dateAt instant).map _ session h
  | nanosAt instant => exact (follows_nanosAt instant).map _ session h
  | timestampAt zone epochNanos => exact (follows_timestampAt zone epochNanos).map _ session h
  | offsetSecondsAt zone instant => exact (follows_ask _).map _ session h
  | localWithoutDst instant => exact follows_ask _ session h
  | utcWithoutDst millis => exact follows_ask _ session h
  | resetDefaultZone zone => exact ⟨rfl, rfl, rfl⟩
  | defaultZone => exact follows_ask _ session h
  | readLiteral dialect kind text => exact (follows_readLiteral dialect kind text).map _ session h

end Session

/-! ## Runs -/

/-- The default zone that a request gives, if it gives one. -/
def Request.newDefaultZone? : Request → Option DefaultZone
  | .resetDefaultZone zone => some zone
  | _ => none

/-- The default zone that the last of the requests to give one gives, or else the initial one. -/
def lastDefaultZone (initial : DefaultZone) (requests : List Request) : DefaultZone :=
  (requests.filterMap Request.newDefaultZone?).getLast?.getD initial

/-- The default zone after more requests is that after the first, and then after the others. -/
theorem lastDefaultZone_cons (initial : DefaultZone) (request : Request)
    (requests : List Request) :
    lastDefaultZone initial (request :: requests) =
      lastDefaultZone (request.newDefaultZone?.getD initial) requests := by
  unfold lastDefaultZone
  rw [List.filterMap_cons]
  cases request.newDefaultZone? with
  | none => rfl
  | some zone => rw [List.getLast?_cons, Option.getD_some, Option.getD_some]

namespace Context

/-- After a request the context has the default zone that was given last. -/
theorem next_eq (ctx : Context) (request : Request) :
    ctx.next request = ⟨ctx.source, request.newDefaultZone?.getD ctx.defaultZone⟩ := by
  cases request <;> rfl

end Context

namespace Session

/-- Every request of a run is answered for the default zone that was set last before it. -/
theorem IsCoherent.run_eq {session : Session} (h : session.IsCoherent) (requests : List Request) :
    session.run requests = requests.mapIdx fun i request =>
      Context.answer ⟨session.context.source,
        lastDefaultZone session.context.defaultZone (requests.take i)⟩ request := by
  induction requests generalizing session with
  | nil => rfl
  | cons request requests ih =>
    obtain ⟨hanswer, hcontext, hcoherent⟩ := respond_spec h request
    rw [run, List.mapIdx_cons, ih hcoherent, hanswer, hcontext, Context.next_eq]
    simp only [List.take_succ_cons, lastDefaultZone_cons]
    rfl

/-- A session answers every request of a run as a new session answers it whose default zone is the
one that was given last, whatever was asked in between and whether or not it failed. -/
theorem run_new_eq (ctx : Context) (requests : List Request) :
    (new ctx).run requests = requests.mapIdx fun i request =>
      ((new ⟨ctx.source, lastDefaultZone ctx.defaultZone (requests.take i)⟩).respond request).1 := by
  rw [(isCoherent_new ctx).run_eq]
  congr 1
  funext i request
  exact (respond_spec (isCoherent_new _) request).1.symm

end Session

end CivilTime
