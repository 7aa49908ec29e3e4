import CivilTime.Proofs.Local.Nanos
import CivilTime.Proofs.Session.Run

/-!
# Instants and local timestamps at a fixed offset

In UTC and in a zone of a fixed offset, both ways between instants and local timestamps are shifts
by the offset: a date with its nanoseconds is a count of local nanoseconds since 1970, and the
instant is that count less the offset. So the two ways undo each other, nanosecond by nanosecond
(`timestamps_correspond_to_instants`), also where one of the shifts leaves 64 bits and wraps.
-/

set_option autoImplicit false

namespace CivilTime

/-! ## Zones of a fixed offset -/

namespace Zone

/-- The offset, in seconds, of a zone that has only one. -/
def fixedOffset? : Zone → Option Int
  | .utc => some 0
  | .fixed offset => some offset.seconds
  | .named _ => none

variable {zone : Zone} {offset : Int} {source : ZoneSource}

/-- A fixed offset is less than a day. -/
theorem fixedOffset_bounds (h : zone.fixedOffset? = some offset) :
    -86400 < offset ∧ offset < 86400 := by
  cases zone with
  | utc =>
    cases h
    decide
  | fixed offset' =>
    cases h
    have hrange := offset'.minutes_range
    unfold UtcOffset.seconds
    omega
  | named name => cases h

/-- A zone of one offset shows it at every instant. -/
theorem offsetAt_of_fixed (h : zone.fixedOffset? = some offset) (instant : Int) :
    zone.offsetAt source instant = .ok (.standard offset) := by
  cases zone with
  | utc =>
    cases h
    rfl
  | fixed offset' =>
    cases h
    rfl
  | named name => cases h

/-- In a zone of one offset every local time is shown once. -/
theorem candidateOffsets_of_fixed (h : zone.fixedOffset? = some offset) (wall : Int) :
    zone.candidateOffsets source wall = .ok (.one (.standard offset)) := by
  cases zone with
  | utc =>
    cases h
    rfl
  | fixed offset' =>
    cases h
    rfl
  | named name => cases h

end Zone

/-! ## Both ways are shifts -/

namespace Context

variable {ctx : Context} {zone : Option Zone} {offset : Int}

/-- The instant of a date with a time of day is a shift of its milliseconds. -/
theorem timestampToEpochNanos_of_fixed (h : (ctx.zoneOr zone).fixedOffset? = some offset)
    {d : Date} {nanos : Int} (hd : d.IsValid) (hnanos : Clock.IsTimeOfDay nanos) :
    ctx.timestampToEpochNanos zone d nanos =
      .ok (wrapInt64 (d.absoluteDay * Clock.millisPerDay + nanos / Clock.nanosPerMilli -
        offset * 1000) * Clock.nanosPerMilli + nanos % Clock.nanosPerMilli) := by
  have hshifted := @timestampToEpochNanos_eq ctx zone d nanos hd hnanos _
    (Zone.candidateOffsets_of_fixed h _) (List.cons_ne_nil _ _)
  simpa only [CandidateOffsets.resolved, LocalRecord.standard] using hshifted

/-- The local timestamp of an instant is that of its milliseconds after a shift. -/
theorem timestampAt_of_fixed (h : (ctx.zoneOr zone).fixedOffset? = some offset) {epochNanos : Int}
    (hfits : FitsInt64 (epochNanos / Clock.nanosPerMilli)) :
    ctx.timestampAt zone epochNanos =
      .ok (timestampOfMillis (wrapInt64 (epochNanos / Clock.nanosPerMilli + offset * 1000))
        (epochNanos % Clock.nanosPerMilli)) := by
  have hshifted := @timestampAt_eq ctx zone epochNanos hfits _ (Zone.offsetAt_of_fixed h _)
  simpa only [LocalRecord.standard] using hshifted

end Context

namespace Session

variable {session : Session} {zone : Option Zone} {offset : Int}

/-- A date with a time of day comes back from its instant, with what is stored of it beyond its
fields left out. Unless the shift leaves 64 bits, the instant is the count of its nanoseconds less
the offset. -/
theorem timestampAt_timestampToEpochNanos (hsession : session.IsCoherent)
    (hzone : (session.context.zoneOr zone).fixedOffset? = some offset) {d : Date} {nanos : Int}
    (hd : d.IsValid) (hnanos : Clock.IsTimeOfDay nanos)
    (hfits : FitsInt64 (d.absoluteDay * Clock.millisPerDay + nanos / Clock.nanosPerMilli)) :
    ∃ e, (timestampToEpochNanos zone d nanos session).1 = .ok e ∧
      (timestampAt zone e (timestampToEpochNanos zone d nanos session).2).1 =
        .ok (.pack d.year d.month d.day, nanos) ∧
      (FitsInt64
          (d.absoluteDay * Clock.millisPerDay + nanos / Clock.nanosPerMilli - offset * 1000) →
        e = d.absoluteDay * Clock.nanosPerDay + nanos - offset * Clock.nanosPerSecond) := by
  obtain ⟨hanswer, hcontext, hcoherent⟩ :=
    follows_timestampToEpochNanos zone d nanos session hsession
  have hexact := Context.timestampToEpochNanos_of_fixed hzone hd hnanos
  have hshifted := fits_wrapInt64
    (d.absoluteDay * Clock.millisPerDay + nanos / Clock.nanosPerMilli - offset * 1000)
  have hback := wrapInt64_sub_add hfits (offset * 1000)
  refine ⟨_, hanswer.trans hexact, ?_, fun hshift => ?_⟩
  · generalize wrapInt64 (d.absoluteDay * Clock.millisPerDay + nanos / Clock.nanosPerMilli -
      offset * 1000) = instant at hshifted hback ⊢
    have hmillis := Clock.join_ediv_nanosPerMilli instant nanos
    have hshown := @Context.timestampAt_of_fixed _ _ _ hzone
      (instant * Clock.nanosPerMilli + nanos % Clock.nanosPerMilli) (by rwa [hmillis])
    rw [hmillis, Clock.join_emod_nanosPerMilli, hback, timestampOfMillis_eq hd hnanos hfits,
      ← hcontext] at hshown
    exact (follows_timestampAt zone _ _ hcoherent).1.trans hshown
  · rw [wrapInt64_of_fits hshift]
    unfold Clock.millisPerDay Clock.nanosPerDay Clock.nanosPerMilli Clock.nanosPerSecond
    omega

/-- An instant comes back from its date and time of day, which are of the calendar. Unless the shift
leaves 64 bits, they count the nanoseconds of the instant and the offset. -/
theorem timestampToEpochNanos_timestampAt (hsession : session.IsCoherent)
    (hzone : (session.context.zoneOr zone).fixedOffset? = some offset) {e : Int}
    (hfits : FitsInt64 (e / Clock.nanosPerMilli)) :
    ∃ d nanos, (timestampAt zone e session).1 = .ok (d, nanos) ∧ d.IsWritable ∧
      Clock.IsTimeOfDay nanos ∧
      (timestampToEpochNanos zone d nanos (timestampAt zone e session).2).1 = .ok e ∧
      (FitsInt64 (e / Clock.nanosPerMilli + offset * 1000) →
        d.absoluteDay * Clock.nanosPerDay + nanos = e + offset * Clock.nanosPerSecond) := by
  obtain ⟨hanswer, hcontext, hcoherent⟩ := follows_timestampAt zone e session hsession
  have hexact := Context.timestampAt_of_fixed hzone hfits
  obtain ⟨hwritable, hnanos, hcount, hkept⟩ := timestampOfMillis_spec
    (fits_wrapInt64 (e / Clock.nanosPerMilli + offset * 1000)) (Clock.emod_nanosPerMilli_range e)
  generalize timestampOfMillis (wrapInt64 (e / Clock.nanosPerMilli + offset * 1000))
    (e % Clock.nanosPerMilli) = shown at hexact hwritable hnanos hcount hkept
  refine ⟨shown.1, shown.2, hanswer.trans hexact, hwritable, hnanos, ?_, fun hshift => ?_⟩
  · have hback := Context.timestampToEpochNanos_of_fixed hzone hwritable.isValid hnanos
    rw [hcount, hkept, wrapInt64_add_sub hfits, Int.ediv_mul_add_emod, ← hcontext] at hback
    exact (follows_timestampToEpochNanos zone _ _ _ hcoherent).1.trans hback
  · rw [nanos_of_millis hcount hkept, wrapInt64_of_fits hshift, nanos_of_shifted]

/-- At a fixed offset, instants and local timestamps correspond one to one, to the nanosecond. Every
date of the calendar with a time of day whose local milliseconds have 64 bits comes back from its
instant. Every instant whose milliseconds have 64 bits has a date of the calendar and a time of day,
and comes back from them; any other instant is refused. The shift between the two is the offset,
unless it leaves 64 bits: such a shift wraps, and the shift back wraps again. -/
theorem timestamps_correspond_to_instants (hsession : session.IsCoherent)
    (hzone : (session.context.zoneOr zone).fixedOffset? = some offset) :
    (∀ d nanos, d.IsValid → Clock.IsTimeOfDay nanos →
      FitsInt64 (d.absoluteDay * Clock.millisPerDay + nanos / Clock.nanosPerMilli) →
      ∃ e, (timestampToEpochNanos zone d nanos session).1 = .ok e ∧
        (timestampAt zone e (timestampToEpochNanos zone d nanos session).2).1 =
          .ok (.pack d.year d.month d.day, nanos) ∧
        (d.IsWritable → Date.pack d.year d.month d.day = d) ∧
        (FitsInt64
            (d.absoluteDay * Clock.millisPerDay + nanos / Clock.nanosPerMilli - offset * 1000) →
          e = d.absoluteDay * Clock.nanosPerDay + nanos - offset * Clock.nanosPerSecond)) ∧
    (∀ e, FitsInt64 (e / Clock.nanosPerMilli) →
      ∃ d nanos, (timestampAt zone e session).1 = .ok (d, nanos) ∧ d.IsWritable ∧
        Clock.IsTimeOfDay nanos ∧
        (timestampToEpochNanos zone d nanos (timestampAt zone e session).2).1 = .ok e ∧
        (FitsInt64 (e / Clock.nanosPerMilli + offset * 1000) →
          d.absoluteDay * Clock.nanosPerDay + nanos = e + offset * Clock.nanosPerSecond)) ∧
    ∀ e, ¬ FitsInt64 (e / Clock.nanosPerMilli) →
      ∃ error, (timestampAt zone e session).1 = .error error ∧ error.kind = .general := by
  refine ⟨?_, ?_, ?_⟩
  · intro d nanos hd hnanos hfits
    obtain ⟨e, hforth, hback, hcount⟩ :=
      timestampAt_timestampToEpochNanos hsession hzone hd hnanos hfits
    exact ⟨e, hforth, hback, fun hwritable => hwritable.eq_pack.symm, hcount⟩
  · intro e hfits
    exact timestampToEpochNanos_timestampAt hsession hzone hfits
  · intro e hfits
    refine ⟨.instantOutOfRange, ?_, rfl⟩
    exact (follows_timestampAt zone e session hsession).1.trans (if_neg hfits)

/-- One nanosecond before 1970 in UTC it is one nanosecond before seven in the evening of the day
before, five hours west of it, and back. -/
theorem timestamps_correspond_to_instants_west :
    (timestampAt (some (.fixed ⟨-300, by decide⟩)) (-1) (.new ⟨.empty, .utc⟩)).1 =
        .ok (.pack 1969 12 31, 68399999999999) ∧
      (timestampToEpochNanos (some (.fixed ⟨-300, by decide⟩)) (.pack 1969 12 31) 68399999999999
        (timestampAt (some (.fixed ⟨-300, by decide⟩)) (-1) (.new ⟨.empty, .utc⟩)).2).1 =
          .ok (-1) := by
  have hzone : ((new ⟨.empty, .utc⟩).context.zoneOr
      (some (.fixed ⟨-300, by decide⟩))).fixedOffset? = some (-18000) := rfl
  have hevening : (timestampAt (some (.fixed ⟨-300, by decide⟩)) (-1) (.new ⟨.empty, .utc⟩)).1 =
      .ok (.pack 1969 12 31, 68399999999999) := by decide
  obtain ⟨d, nanos, hshown, -, -, hback, -⟩ :=
    (timestamps_correspond_to_instants (isCoherent_new ⟨.empty, .utc⟩) hzone).2.1 (-1) (by decide)
  obtain ⟨rfl, rfl⟩ := Prod.mk.inj (Except.ok.inj (hevening.symm.trans hshown))
  exact ⟨hevening, hback⟩

end Session

end CivilTime
