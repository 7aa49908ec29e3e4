import CivilTime.Session.Basic

/-!
# Sessions and their contexts

In a zone that is told, a session answers as its context does, whatever calendars it keeps: a
calendar of another zone is not used, and what is left in one of the same zone is set anew
(`toInstant_some`).
-/

set_option autoImplicit false

namespace CivilTime

namespace Session

/-- An action goes on from where the action before it ended, unless that failed. -/
theorem bind_eq {α β : Type} (x : Action α) (f : α → Action β) (session : Session) :
    (x >>= f) session =
      match x session with
      | (.ok a, after) => f a after
      | (.error e, after) => (.error e, after) := by
  simp only [bind, ExceptT.bind, ExceptT.mk, ExceptT.bindCont, StateT.bind]
  rcases x session with ⟨answer, after⟩
  cases answer <;> rfl

/-- An action that answers hands its answer and its session on. -/
theorem bind_of_ok {α β : Type} {x : Action α} {f : α → Action β} {session : Session} {a : α}
    (h : (x session).1 = .ok a) : ((x >>= f) session).1 = (f a (x session).2).1 := by
  rw [bind_eq]
  rcases hx : x session with ⟨answer, after⟩
  rw [hx] at h
  dsimp only at h
  rw [h]

/-- The calendar for a zone that is given is in that zone. -/
theorem zone_calendarOf (session : Session) (zone : Zone) :
    (session.calendarOf (some zone)).zone = zone := by
  unfold calendarOf
  cases session.zoneCalendar with
  | none => rfl
  | some calendar =>
    dsimp only
    split
    · next heq => exact heq
    · rfl

/-- In a zone that is told, a session answers as its context, whatever calendars it keeps. -/
theorem toInstant_some (session : Session) (zone : Zone) (fields : LocalFields) :
    (toInstant (some zone) fields session).1 = session.context.toInstant (some zone) fields := by
  unfold toInstant Context.toInstant
  simp only [ZoneCalendar.instant, ZoneCalendar.set, ZoneCalendar.setMode, ZoneCalendar.clear,
    zone_calendarOf, Context.zoneOr, Option.getD_some]
  cases zone.instantOf session.context.source .strict fields with
  | ok instant => rfl
  | error e =>
    dsimp only
    cases Context.retryFields? fields e <;> rfl

end Session

end CivilTime
