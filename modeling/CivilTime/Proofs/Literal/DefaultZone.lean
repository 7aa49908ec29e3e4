import CivilTime.Proofs.Literal.Written
import CivilTime.Proofs.Local.Nanos
import CivilTime.Proofs.Session.Run
import CivilTime.Proofs.Zone.Steady

/-!
# Timestamps that lose their zone

A timestamp without its offset is taken from the zone that it tells to the default zone. The reader
does this in milliseconds, asks the default zone for the date and for the time on its own, and adds
the rest of the nanoseconds in the end. The instant in nanoseconds leads to the same timestamp
(`readTimestamp_through_epochNanos`): whatever the zones are, no digit is lost on either way.
-/

set_option autoImplicit false

namespace CivilTime

namespace Context

variable {ctx : Context} {dialect : Dialect} {text : List Char}

/-- A timestamp whose text tells a zone is resolved in that zone. -/
theorem readTimestamp_of_told {d : Date} {nanos : Int} {zone : Zone}
    (h : WrittenTimestamp.read ctx.source dialect text = .ok ⟨d, nanos, some zone⟩)
    (wantOffset : Bool) :
    ctx.readTimestamp dialect wantOffset text = ctx.zonedTimestamp wantOffset zone d nanos := by
  simp only [readTimestamp, h]

/-- The way through milliseconds, with two questions to the default zone, is the way through
nanoseconds, with one. -/
theorem inDefaultZone_eq {zone : Zone} {d : Date} {nanos : Int}
    (hnanos : Clock.IsTimeOfDay nanos) :
    ctx.inDefaultZone zone d nanos =
      (ctx.timestampToEpochNanos (some zone) d nanos).bind fun e =>
        (ctx.timestampAt none e).map fun shown => .timestamp shown.1 shown.2 := by
  unfold inDefaultZone timestampToEpochNanos
  cases hinstant : ctx.dateTimeToInstant (some zone) d (nanos.tdiv Clock.nanosPerMilli) with
  | error e => rfl
  | ok u =>
    have hfits : FitsInt64 u := fits_of_toInstant hinstant
    -- the rest is less than a millisecond and not negative, so rounding down takes it off again
    have hrest : nanos.tmod Clock.nanosPerMilli = nanos % Clock.nanosPerMilli :=
      Int.tmod_eq_emod_of_nonneg hnanos.1
    simp only [Except.bind, timestampAt, dateAt, nanosAt, hrest, Clock.join_ediv_nanosPerMilli,
      Clock.join_emod_nanosPerMilli, if_pos hfits]
    cases ctx.fieldsAt none u with
    | error e => rfl
    | ok fields => simp only [Except.map, Int.add_comm]

/-- What is read is the date and the time of an instant, with the digits that were written. -/
theorem inDefaultZone_eq_ok {zone : Zone} {d : Date} {nanos : Int} (hnanos : Clock.IsTimeOfDay nanos)
    {literal : Literal} (h : ctx.inDefaultZone zone d nanos = .ok literal) :
    ∃ e d' nanos' record, ctx.timestampToEpochNanos (some zone) d nanos = .ok e ∧
      ctx.timestampAt none e = .ok (d', nanos') ∧
      literal = .timestamp d' nanos' ∧ d'.IsWritable ∧ Clock.IsTimeOfDay nanos' ∧
      nanos' % Clock.nanosPerMilli = nanos % Clock.nanosPerMilli ∧
      ctx.defaultZone.zone.offsetAt ctx.source (e / Clock.nanosPerSecond) = .ok record ∧
      (FitsInt64 (e / Clock.nanosPerMilli + record.offset * 1000) →
        d'.absoluteDay * Clock.nanosPerDay + nanos' =
          e + record.offset * Clock.nanosPerSecond) := by
  rw [inDefaultZone_eq hnanos] at h
  cases he : ctx.timestampToEpochNanos (some zone) d nanos with
  | error error =>
    rw [he] at h
    cases h
  | ok e =>
    rw [he] at h
    change (ctx.timestampAt none e).map _ = _ at h
    cases hshown : ctx.timestampAt none e with
    | error error =>
      rw [hshown] at h
      cases h
    | ok shown =>
      rw [hshown] at h
      cases h
      obtain ⟨record, hrecord, htimestamp⟩ := timestampAt_eq_ok hshown
      obtain ⟨hwritable, hday, hcount, hkept⟩ := timestampOfMillis_spec
        (fits_wrapInt64 (e / Clock.nanosPerMilli + record.offset * 1000))
        (Clock.emod_nanosPerMilli_range e)
      rw [← htimestamp] at hwritable hday hcount hkept
      refine ⟨e, shown.1, shown.2, record, rfl, hshown, rfl, hwritable, hday, ?_, hrecord,
        fun hfits => ?_⟩
      · rw [hkept, emod_of_timestampToEpochNanos hnanos he]
      · rw [nanos_of_millis hcount hkept, wrapInt64_of_fits hfits, nanos_of_shifted]

end Context

namespace Session

/-- A timestamp that tells its zone, but is to lose it, reads as the local timestamp that its
instant, in nanoseconds, has in the default zone; where one of these fails, so does the other, with
the same error. This is so for every source of zone data, also one with a way of its own to the
candidates of a time. What is read is a date of the calendar with a time of day, and its last six
digits are those that were written. As long as the instant shifted by the offset of the default zone
has milliseconds of 64 bits, what is read counts the nanoseconds of the shifted instant. -/
theorem readTimestamp_through_epochNanos {session : Session} (hsession : session.IsCoherent)
    {dialect : Dialect} {text : List Char} {d : Date} {nanos : Int} {zone : Zone}
    (hread : WrittenTimestamp.read session.context.source dialect text =
      .ok ⟨d, nanos, some zone⟩) :
    (readTimestamp dialect false text session).1 =
      ((timestampToEpochNanos (some zone) d nanos session).1.bind fun e =>
        (timestampAt none e (timestampToEpochNanos (some zone) d nanos session).2).1.map
          fun shown => .timestamp shown.1 shown.2) ∧
    ∀ literal, (readTimestamp dialect false text session).1 = .ok literal →
      ∃ e d' nanos' record, (timestampToEpochNanos (some zone) d nanos session).1 = .ok e ∧
        (timestampAt none e (timestampToEpochNanos (some zone) d nanos session).2).1 =
          .ok (d', nanos') ∧
        literal = .timestamp d' nanos' ∧ d'.IsWritable ∧ Clock.IsTimeOfDay nanos' ∧
        nanos' % Clock.nanosPerMilli = nanos % Clock.nanosPerMilli ∧
        session.context.defaultZone.zone.offsetAt session.context.source
          (e / Clock.nanosPerSecond) = .ok record ∧
        (FitsInt64 (e / Clock.nanosPerMilli + record.offset * 1000) →
          d'.absoluteDay * Clock.nanosPerDay + nanos' =
            e + record.offset * Clock.nanosPerSecond) := by
  obtain ⟨-, hnanos, -⟩ := WrittenTimestamp.read_eq_ok hread
  obtain ⟨hinstant, hcontext, hcoherent⟩ :=
    follows_timestampToEpochNanos (some zone) d nanos session hsession
  have hshown (e : Int) :
      (timestampAt none e (timestampToEpochNanos (some zone) d nanos session).2).1 =
        session.context.timestampAt none e := by
    rw [(follows_timestampAt none e _ hcoherent).1, hcontext]
  have hanswer : (readTimestamp dialect false text session).1 =
      session.context.inDefaultZone zone d nanos :=
    (follows_readTimestamp dialect false text session hsession).1.trans
      (Context.readTimestamp_of_told hread false)
  simp only [hinstant, hshown, hanswer]
  exact ⟨Context.inDefaultZone_eq hnanos, fun literal => Context.inDefaultZone_eq_ok hnanos⟩

/-- A time in the night in March that the clocks of New York skipped is read there as the one an
hour later, with all its digits. -/
theorem readTimestamp_through_epochNanos_skipped :
    (readTimestamp .standard false "2017-03-12 02:30:00.123456789 America/New_York".toList
        (.new ⟨newYork2017.source, ⟨.named "America/New_York", -18000⟩⟩)).1 =
      .ok (.timestamp (.pack 2017 3 12) 12600123456789) := by
  have hread : WrittenTimestamp.read newYork2017.source .standard
      "2017-03-12 02:30:00.123456789 America/New_York".toList =
      .ok ⟨.pack 2017 3 12, 9000123456789, some (.named "America/New_York")⟩ := by
    decide +kernel
  obtain ⟨hsame, -⟩ := readTimestamp_through_epochNanos
    (isCoherent_new ⟨newYork2017.source, ⟨.named "America/New_York", -18000⟩⟩) hread
  rw [hsame]
  decide +kernel

end Session

end CivilTime
