import CivilTime.Proofs.Date.Order
import CivilTime.Proofs.Local.Resolution

/-!
# Local timestamps in nanoseconds

A date with a time of day is a count of local milliseconds since 1970, and a rest of nanoseconds.
Its instant is that count less the offset of the record under which it is taken, with the same rest
(`timestampToEpochNanos_eq`), and the local timestamp of an instant is the count of the instant with
the offset in effect, taken apart again (`timestampAt_eq`). Each way stores its count in 64 bits.
Neither way supposes anything of the zone but that it answers.
-/

set_option autoImplicit false

namespace CivilTime

/-! ## Milliseconds and the rest -/

namespace Clock

/-- What nanoseconds have beyond whole milliseconds is less than one. -/
theorem emod_nanosPerMilli_range (nanos : Int) :
    0 ≤ nanos % nanosPerMilli ∧ nanos % nanosPerMilli < nanosPerMilli := by
  unfold nanosPerMilli
  omega

/-- Milliseconds come back from their nanoseconds with a rest. -/
theorem join_ediv_nanosPerMilli (millis nanos : Int) :
    (millis * nanosPerMilli + nanos % nanosPerMilli) / nanosPerMilli = millis := by
  unfold nanosPerMilli
  omega

/-- The rest comes back from the nanoseconds of milliseconds with it. -/
theorem join_emod_nanosPerMilli (millis nanos : Int) :
    (millis * nanosPerMilli + nanos % nanosPerMilli) % nanosPerMilli = nanos % nanosPerMilli := by
  unfold nanosPerMilli
  omega

/-- The second of an instant is that of its milliseconds. -/
theorem ediv_nanosPerMilli_ediv (epochNanos : Int) :
    epochNanos / nanosPerMilli / 1000 = epochNanos / nanosPerSecond := by
  unfold nanosPerMilli nanosPerSecond
  omega

end Clock

/-! ## Dates and nanoseconds -/

/-- Every day number, also one beyond the limits, has a date that can be written. -/
theorem Date.isWritable_ofAbsoluteDay (n : Int) : (ofAbsoluteDay n).IsWritable := by
  have hrange := isDayNumber_clampAbsoluteDay n
  have hclamp : ofAbsoluteDay (clampAbsoluteDay n) = ofAbsoluteDay n := by
    rw [ofAbsoluteDay, MarchDay.ofAbsoluteDay_clamp, ofAbsoluteDay]
  obtain ⟨hvalid, hnumber⟩ := absoluteDay_ofAbsoluteDay hrange
  have hpack := ofAbsoluteDay_absoluteDay hvalid (by rwa [hnumber])
  rw [hnumber] at hpack
  rw [← hclamp, hpack]
  exact isWritable_pack (fits_year _) hvalid

namespace LocalFields

/-- The date of local milliseconds is that of their whole days. -/
theorem date_ofMillis (millis : Int) :
    (ofMillis millis).date = Date.ofAbsoluteDay (millis / Clock.millisPerDay) :=
  (Date.isWritable_ofAbsoluteDay _).eq_pack.symm

/-- The time of day of local milliseconds is what they have beyond whole days. -/
theorem nanosOfDay_ofMillis (millis : Int) :
    (ofMillis millis).nanosOfDay = millis % Clock.millisPerDay * Clock.nanosPerMilli := by
  have hrest : 0 ≤ millis % Clock.millisPerDay ∧ millis % Clock.millisPerDay < 86400000 := by
    unfold Clock.millisPerDay
    omega
  rw [ofMillis, ofDateMillis_eq _ hrest]
  unfold nanosOfDay clock Clock.Fields.nanos Clock.Fields.millis
  dsimp only
  congr 1
  omega

end LocalFields

/-- Days and nanoseconds of a day count the nanoseconds of the milliseconds and of the rest that
they are taken apart into. -/
theorem nanos_of_millis {day nanos millis rest : Int}
    (hcount : day * Clock.millisPerDay + nanos / Clock.nanosPerMilli = millis)
    (hrest : nanos % Clock.nanosPerMilli = rest) :
    day * Clock.nanosPerDay + nanos = millis * Clock.nanosPerMilli + rest := by
  unfold Clock.millisPerDay Clock.nanosPerMilli at hcount
  unfold Clock.nanosPerMilli at hrest
  unfold Clock.nanosPerDay Clock.nanosPerMilli
  omega

/-- Shifting milliseconds by an offset shifts the nanoseconds of the instant. -/
theorem nanos_of_shifted (epochNanos offset : Int) :
    (epochNanos / Clock.nanosPerMilli + offset * 1000) * Clock.nanosPerMilli +
        epochNanos % Clock.nanosPerMilli = epochNanos + offset * Clock.nanosPerSecond := by
  unfold Clock.nanosPerMilli Clock.nanosPerSecond
  omega

/-- The date and the nanoseconds of its day of local milliseconds and of a rest, which is less than
a millisecond. -/
def timestampOfMillis (millis rest : Int) : Date × Int :=
  (.ofAbsoluteDay (millis / Clock.millisPerDay),
    millis % Clock.millisPerDay * Clock.nanosPerMilli + rest)

/-- Milliseconds of 64 bits and a rest have a date of the calendar and a time of day, and are told
by them. -/
theorem timestampOfMillis_spec {millis rest : Int} (hfits : FitsInt64 millis)
    (hrest : 0 ≤ rest ∧ rest < Clock.nanosPerMilli) :
    (timestampOfMillis millis rest).1.IsWritable ∧
      Clock.IsTimeOfDay (timestampOfMillis millis rest).2 ∧
      (timestampOfMillis millis rest).1.absoluteDay * Clock.millisPerDay +
        (timestampOfMillis millis rest).2 / Clock.nanosPerMilli = millis ∧
      (timestampOfMillis millis rest).2 % Clock.nanosPerMilli = rest := by
  obtain ⟨-, hcount⟩ := Date.absoluteDay_ofAbsoluteDay (LocalFields.isDayNumber_of_fits hfits)
  refine ⟨Date.isWritable_ofAbsoluteDay _, ?_, ?_, ?_⟩
  · unfold Clock.nanosPerMilli at hrest
    unfold timestampOfMillis Clock.IsTimeOfDay Clock.nanosPerDay Clock.millisPerDay
      Clock.nanosPerMilli
    dsimp only
    omega
  · rw [timestampOfMillis, hcount]
    unfold Clock.nanosPerMilli at hrest ⊢
    unfold Clock.millisPerDay
    dsimp only
    omega
  · unfold Clock.nanosPerMilli at hrest
    unfold timestampOfMillis Clock.nanosPerMilli
    dsimp only
    omega

/-- A date with a time of day whose milliseconds have 64 bits comes back from them, with what is
stored of it beyond its fields left out. -/
theorem timestampOfMillis_eq {d : Date} {nanos : Int} (hd : d.IsValid)
    (hnanos : Clock.IsTimeOfDay nanos)
    (hfits : FitsInt64 (d.absoluteDay * Clock.millisPerDay + nanos / Clock.nanosPerMilli)) :
    timestampOfMillis (d.absoluteDay * Clock.millisPerDay + nanos / Clock.nanosPerMilli)
      (nanos % Clock.nanosPerMilli) = (.pack d.year d.month d.day, nanos) := by
  have hnumber := LocalFields.isDayNumber_of_fits hfits
  unfold Clock.IsTimeOfDay Clock.nanosPerDay at hnanos
  have hday : (d.absoluteDay * Clock.millisPerDay + nanos / Clock.nanosPerMilli) /
      Clock.millisPerDay = d.absoluteDay := by
    unfold Clock.millisPerDay Clock.nanosPerMilli
    omega
  rw [hday] at hnumber
  rw [timestampOfMillis, hday, Date.ofAbsoluteDay_absoluteDay hd hnumber, Prod.mk.injEq]
  refine ⟨rfl, ?_⟩
  unfold Clock.millisPerDay Clock.nanosPerMilli
  omega

/-! ## The records of a zone -/

namespace Zone

variable {zone : Zone} {source : ZoneSource}

/-- The local fields of an instant are those of the instant shifted by the offset in effect. -/
theorem fieldsAt_of_offsetAt {instant : Int} {record : LocalRecord}
    (h : zone.offsetAt source (instant / 1000) = .ok record) :
    zone.fieldsAt source instant =
      .ok (.ofMillis (wrapInt64 (instant + record.offset * 1000))) := by
  unfold fieldsAt
  rw [h]
  rfl

/-- Instants are stored in 64 bits. -/
theorem fits_of_instantOf {mode : Strictness} {fields : LocalFields} {u : Int}
    (h : zone.instantOf source mode fields = .ok u) : FitsInt64 u := by
  unfold instantOf at h
  split at h
  · cases h
  · split at h
    · cases h
    · split at h
      · cases h
      · obtain rfl := Except.ok.inj h
        exact fits_wrapInt64 _

/-- Unless the time was skipped, the strict computation takes it under the record that it is taken
under in the end. -/
theorem chooseRecord_strict {candidates : CandidateOffsets} (h : candidates.records ≠ []) :
    chooseRecord .strict candidates = .ok candidates.resolved := by
  cases candidates with
  | gap before after => exact absurd rfl h
  | one record => rfl
  | two first second => rfl

end Zone

/-! ## Both ways -/

namespace Context

variable {ctx : Context} {zone : Option Zone}

/-- Whichever attempt an instant comes from, it has 64 bits. -/
theorem fits_of_toInstant {fields : LocalFields} {u : Int} (h : ctx.toInstant zone fields = .ok u) :
    FitsInt64 u := by
  unfold toInstant at h
  split at h
  next instant hstrict =>
    obtain rfl := Except.ok.inj h
    exact Zone.fits_of_instantOf hstrict
  · split at h
    · cases h
    · exact Zone.fits_of_instantOf h

/-- The instant of a date with a time of day that was not skipped, in milliseconds. The candidates
are those of the second of the local milliseconds as they are stored. -/
theorem dateTimeToInstant_eq {d : Date} {nanos : Int} (hd : d.IsValid)
    (hnanos : Clock.IsTimeOfDay nanos) {candidates : CandidateOffsets}
    (hfound : (ctx.zoneOr zone).candidateOffsets ctx.source
      (wrapInt64 (d.absoluteDay * Clock.millisPerDay + nanos / Clock.nanosPerMilli) / 1000) =
        .ok candidates)
    (hshown : candidates.records ≠ []) :
    ctx.dateTimeToInstant zone d (nanos.tdiv Clock.nanosPerMilli) =
      .ok (wrapInt64 (d.absoluteDay * Clock.millisPerDay + nanos / Clock.nanosPerMilli -
        candidates.resolved.offset * 1000)) := by
  have hmillis := hnanos.millis_range
  -- the time is not negative, so cutting off towards zero is rounding down
  have htdiv : nanos.tdiv Clock.nanosPerMilli = nanos / Clock.nanosPerMilli :=
    Int.tdiv_eq_ediv_of_nonneg hnanos.1
  rw [htdiv] at hmillis ⊢
  have hfields := LocalFields.inCalendar_ofDateMillis hd hmillis
  have hcount := LocalFields.exactMillis_ofDateMillis hd hmillis
  rw [← hcount] at hfound
  have hstrict := Zone.instantOf_strict hfields hfound (Zone.chooseRecord_strict hshown)
  rw [hcount] at hstrict
  simp only [dateTimeToInstant, toInstant, hstrict]

/-- The instant of a date with a time of day that was not skipped. -/
theorem timestampToEpochNanos_eq {d : Date} {nanos : Int} (hd : d.IsValid)
    (hnanos : Clock.IsTimeOfDay nanos) {candidates : CandidateOffsets}
    (hfound : (ctx.zoneOr zone).candidateOffsets ctx.source
      (wrapInt64 (d.absoluteDay * Clock.millisPerDay + nanos / Clock.nanosPerMilli) / 1000) =
        .ok candidates)
    (hshown : candidates.records ≠ []) :
    ctx.timestampToEpochNanos zone d nanos =
      .ok (wrapInt64 (d.absoluteDay * Clock.millisPerDay + nanos / Clock.nanosPerMilli -
        candidates.resolved.offset * 1000) * Clock.nanosPerMilli + nanos % Clock.nanosPerMilli) := by
  unfold timestampToEpochNanos
  rw [dateTimeToInstant_eq hd hnanos hfound hshown]
  dsimp only
  rw [Int.tmod_eq_emod_of_nonneg hnanos.1]

/-- The local timestamp of an instant is that of its milliseconds, shifted by the offset in effect.
-/
theorem timestampAt_eq {epochNanos : Int} (hfits : FitsInt64 (epochNanos / Clock.nanosPerMilli))
    {record : LocalRecord}
    (h : (ctx.zoneOr zone).offsetAt ctx.source (epochNanos / Clock.nanosPerSecond) = .ok record) :
    ctx.timestampAt zone epochNanos =
      .ok (timestampOfMillis
        (wrapInt64 (epochNanos / Clock.nanosPerMilli + record.offset * 1000))
        (epochNanos % Clock.nanosPerMilli)) := by
  rw [← Clock.ediv_nanosPerMilli_ediv] at h
  unfold timestampAt fieldsAt
  rw [if_pos hfits, Zone.fieldsAt_of_offsetAt h]
  dsimp only
  rw [LocalFields.date_ofMillis, LocalFields.nanosOfDay_ofMillis, timestampOfMillis]

/-- A local timestamp that is answered is that of the record in effect. -/
theorem timestampAt_eq_ok {epochNanos : Int} {shown : Date × Int}
    (h : ctx.timestampAt zone epochNanos = .ok shown) :
    ∃ record,
      (ctx.zoneOr zone).offsetAt ctx.source (epochNanos / Clock.nanosPerSecond) = .ok record ∧
      shown = timestampOfMillis
        (wrapInt64 (epochNanos / Clock.nanosPerMilli + record.offset * 1000))
        (epochNanos % Clock.nanosPerMilli) := by
  by_cases hfits : FitsInt64 (epochNanos / Clock.nanosPerMilli)
  · cases hrecord :
      (ctx.zoneOr zone).offsetAt ctx.source (epochNanos / Clock.nanosPerSecond) with
    | error e =>
      have hrefused : ctx.fieldsAt zone (epochNanos / Clock.nanosPerMilli) = .error e := by
        simp only [fieldsAt, Zone.fieldsAt, Clock.ediv_nanosPerMilli_ediv, hrecord]
      simp only [timestampAt, if_pos hfits, hrefused] at h
      cases h
    | ok record =>
      rw [timestampAt_eq hfits hrecord, Except.ok.injEq] at h
      exact ⟨record, rfl, h.symm⟩
  · simp only [timestampAt, if_neg hfits] at h
    cases h

/-- The instant of a time of day keeps what is less than a millisecond. -/
theorem emod_of_timestampToEpochNanos {d : Date} {nanos e : Int} (hnanos : Clock.IsTimeOfDay nanos)
    (h : ctx.timestampToEpochNanos zone d nanos = .ok e) :
    e % Clock.nanosPerMilli = nanos % Clock.nanosPerMilli := by
  unfold timestampToEpochNanos at h
  split at h
  · cases h
  · obtain rfl := Except.ok.inj h
    rw [Int.tmod_eq_emod_of_nonneg hnanos.1, Clock.join_emod_nanosPerMilli]

end Context

end CivilTime
