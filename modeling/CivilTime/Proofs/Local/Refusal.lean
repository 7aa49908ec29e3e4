import Mathlib.Tactic.SplitIfs
import CivilTime.Proofs.Session.Run
import CivilTime.Proofs.Zone.Steady

/-!
# Local fields that have no instant

A strict attempt may be refused for any field, or because the zone skipped the time. What is
refused in the end is a day that its month does not have, or an hour that no day has
(`toInstant_refuses_exactly`). Everything else is carried by a second attempt, which always
succeeds, also the days that the change of calendar left out and the times that a zone skipped.
-/

set_option autoImplicit false

namespace CivilTime

/-! ## The first field out of range -/

namespace LocalFields

/-- The month is one of the twelve, and it does not have the day. The days that the change of
calendar left out count as days of their month here. -/
def HasNoSuchDay (fields : LocalFields) : Prop :=
  (1 ≤ fields.month ∧ fields.month ≤ 12) ∧
    ¬ (1 ≤ fields.day ∧ fields.day ≤ daysInMonth fields.year fields.month)

/-- The date is one of the calendar, and no day has the hour. -/
def HasNoSuchHour (fields : LocalFields) : Prop :=
  IsCalendarDate fields.year fields.month fields.day ∧ ¬ (0 ≤ fields.hour ∧ fields.hour ≤ 23)

variable {fields : LocalFields}

/-- The day is the first field out of range exactly if the month is one, and the calendar does not
have the day. -/
theorem firstOverflow_eq_dayOfMonth_iff :
    fields.firstOverflow? = some .dayOfMonth ↔
      (1 ≤ fields.month ∧ fields.month ≤ 12) ∧
        ¬ IsCalendarDate fields.year fields.month fields.day := by
  unfold firstOverflow?
  constructor
  · intro h
    split_ifs at h with hmonth hdate <;> cases h
    exact ⟨hmonth, hdate⟩
  · rintro ⟨hmonth, hdate⟩
    rw [if_neg (not_not_intro hmonth), if_pos hdate]

/-- The hour is the first field out of range exactly if the date exists and the hour does not. -/
theorem firstOverflow_eq_hourOfDay_iff :
    fields.firstOverflow? = some .hourOfDay ↔ fields.HasNoSuchHour := by
  unfold firstOverflow? HasNoSuchHour
  constructor
  · intro h
    split_ifs at h with hmonth hdate hhour <;> cases h
    exact ⟨hdate, hhour⟩
  · rintro ⟨hdate, hhour⟩
    rw [if_neg (not_not_intro hdate.1), if_neg (not_not_intro hdate), if_pos hhour]

/-- A day that the calendar does not have is the first field out of range. -/
theorem HasNoSuchDay.firstOverflow (h : fields.HasNoSuchDay) :
    fields.firstOverflow? = some .dayOfMonth :=
  firstOverflow_eq_dayOfMonth_iff.2 ⟨h.1, fun hdate => h.2 hdate.2.1⟩

/-- Of the fields out of range, only a day and an hour that do not exist are not tried again. -/
theorem retryFields_eq_none_iff {field : CalendarField} (h : fields.firstOverflow? = some field) :
    Context.retryFields? fields (fields.overflowError field) = none ↔
      fields.HasNoSuchDay ∨ fields.HasNoSuchHour := by
  have hday : fields.HasNoSuchDay → field = .dayOfMonth := by
    intro hday
    rw [hday.firstOverflow] at h
    exact (Option.some.inj h).symm
  have hhour : fields.HasNoSuchHour → field = .hourOfDay := by
    intro hhour
    rw [firstOverflow_eq_hourOfDay_iff.2 hhour] at h
    exact (Option.some.inj h).symm
  unfold Context.retryFields?
  cases field with
  | dayOfMonth =>
    obtain ⟨hmonth, -⟩ := firstOverflow_eq_dayOfMonth_iff.1 h
    have hnone : ¬ fields.HasNoSuchHour := fun hno => nomatch hhour hno
    change (if 1 ≤ fields.day ∧ fields.day ≤ daysInMonth fields.year fields.month then _
      else none) = none ↔ _
    split
    · next hrange => simp [HasNoSuchDay, hrange, hnone]
    · next hrange => simp [HasNoSuchDay, hmonth, hrange]
  | hourOfDay =>
    have hno := firstOverflow_eq_hourOfDay_iff.1 h
    change (if 0 ≤ fields.hour ∧ fields.hour ≤ 23 then some fields else none) = none ↔ _
    rw [if_neg hno.2]
    simp [hno]
  | month | minute | second | millisecond =>
    constructor
    · intro hnone
      cases hnone
    · rintro (hno | hno)
      · cases hday hno
      · cases hhour hno

end LocalFields

/-! ## Both attempts -/

/-- Where every instant has a record, every time has candidates. -/
theorem exists_candidateOffsets {offsetAt : Int → Except Error LocalRecord}
    (hanswers : ∀ t, ∃ record, offsetAt t = .ok record) (wall : Int) :
    ∃ candidates, candidateOffsets offsetAt wall = .ok candidates := by
  obtain ⟨before, hbefore⟩ := hanswers (wall - transitionSearchSeconds)
  obtain ⟨after, hafter⟩ := hanswers (wall + transitionSearchSeconds)
  obtain ⟨atBefore, hatBefore⟩ := hanswers (wall - before.offset)
  obtain ⟨atAfter, hatAfter⟩ := hanswers (wall - after.offset)
  simp only [candidateOffsets, hbefore, hafter, hatBefore, hatAfter]
  split_ifs <;> exact ⟨_, rfl⟩

/-- The source answers for a name: it has a record at every instant, and candidates for every wall
clock time. -/
structure ZoneSource.Answers (source : ZoneSource) (name : String) : Prop where
  offsetAt : ∀ t, ∃ record, source.offsetAt name t = .ok record
  candidateOffsets : ∀ wall, ∃ candidates, source.candidateOffsets name wall = .ok candidates

/-- A source that searches answers for a name if it has a record at every instant. -/
theorem ZoneSource.Searches.answers {source : ZoneSource} {name : String}
    (hsearches : source.Searches name)
    (hanswers : ∀ t, ∃ record, source.offsetAt name t = .ok record) : source.Answers name where
  offsetAt := hanswers
  candidateOffsets wall := by
    rw [hsearches wall]
    exact exists_candidateOffsets hanswers wall

namespace Zone

variable {source : ZoneSource} {zone : Zone} {fields : LocalFields}

/-- Every time in the zone has candidates if the source has some for the name of the zone, or the
zone has no name. -/
theorem exists_candidateOffsets
    (hanswers : ∀ name, zone = .named name →
      ∀ wall, ∃ candidates, source.candidateOffsets name wall = .ok candidates)
    (wall : Int) : ∃ candidates, zone.candidateOffsets source wall = .ok candidates := by
  cases zone with
  | utc => exact ⟨_, rfl⟩
  | fixed offset => exact ⟨_, rfl⟩
  | named name => exact hanswers name rfl wall

/-- Every instant has a record in the zone if the source has one for the name of the zone, or the
zone has no name. -/
theorem exists_offsetAt
    (hanswers : ∀ name, zone = .named name → ∀ t, ∃ record, source.offsetAt name t = .ok record)
    (t : Int) : ∃ record, zone.offsetAt source t = .ok record := by
  cases zone with
  | utc => exact ⟨_, rfl⟩
  | fixed offset => exact ⟨_, rfl⟩
  | named name => exact hanswers name rfl t

variable (hfound : ∀ wall, ∃ candidates, zone.candidateOffsets source wall = .ok candidates)

include hfound

/-- The lenient mode answers for any fields. -/
theorem instantOf_lenient_eq_ok (fields : LocalFields) :
    ∃ u, zone.instantOf source .lenient fields = .ok u := by
  obtain ⟨candidates, h⟩ := hfound (fields.lenientMillis / 1000)
  simp only [instantOf, localMillis, h]
  cases candidates <;> exact ⟨_, rfl⟩

/-- The strict attempt answers, or refuses the first field out of range, or refuses the hour of a
time of the calendar that the zone skipped. -/
theorem instantOf_strict_cases (fields : LocalFields) :
    (∃ u, zone.instantOf source .strict fields = .ok u) ∨
    (∃ field, fields.firstOverflow? = some field ∧
      zone.instantOf source .strict fields = .error (fields.overflowError field)) ∨
    (fields.firstOverflow? = none ∧
      zone.instantOf source .strict fields = .error .skippedLocalTime) := by
  cases hfirst : fields.firstOverflow? with
  | some field =>
    refine .inr (.inl ⟨field, rfl, ?_⟩)
    simp only [instantOf, localMillis, hfirst]
  | none =>
    obtain ⟨candidates, h⟩ := hfound (fields.strictMillis / 1000)
    have hrun : zone.instantOf source .strict fields =
        (chooseRecord .strict candidates).map fun record =>
          wrapInt64 (fields.strictMillis - record.offset * 1000) := by
      simp only [instantOf, localMillis, hfirst, h]
      cases candidates <;> rfl
    cases candidates with
    | gap before after => exact .inr (.inr ⟨rfl, hrun⟩)
    | one record => exact .inl ⟨_, hrun⟩
    | two first second => exact .inl ⟨_, hrun⟩

end Zone

/-! ## What is refused in the end -/

namespace Context

variable {ctx : Context} {zone : Option Zone} {fields : LocalFields}

/-- A day or an hour that does not exist is refused, and not tried again. -/
theorem toInstant_of_not_retried {field : CalendarField}
    (hfirst : fields.firstOverflow? = some field)
    (hno : fields.HasNoSuchDay ∨ fields.HasNoSuchHour) :
    ctx.toInstant zone fields = .error (fields.overflowError field) := by
  have hrefused : (ctx.zoneOr zone).instantOf ctx.source .strict fields =
      .error (fields.overflowError field) := by
    simp only [Zone.instantOf, Zone.localMillis, hfirst]
  simp only [toInstant, hrefused, (LocalFields.retryFields_eq_none_iff hfirst).2 hno]

variable (hfound : ∀ wall, ∃ candidates,
  (ctx.zoneOr zone).candidateOffsets ctx.source wall = .ok candidates)

include hfound

/-- Fields that are tried again are answered leniently. -/
theorem toInstant_of_retried {e : Error} {retried : LocalFields}
    (hrefused : (ctx.zoneOr zone).instantOf ctx.source .strict fields = .error e)
    (hretry : retryFields? fields e = some retried) :
    ∃ u, (ctx.zoneOr zone).instantOf ctx.source .lenient retried = .ok u ∧
      ctx.toInstant zone fields = .ok u := by
  obtain ⟨u, hu⟩ := Zone.instantOf_lenient_eq_ok hfound retried
  refine ⟨u, hu, ?_⟩
  simp only [toInstant, hrefused, hretry, hu]

/-- Fields whose day and hour exist are answered. -/
theorem toInstant_eq_ok (hday : ¬ fields.HasNoSuchDay) (hhour : ¬ fields.HasNoSuchHour) :
    ∃ u, ctx.toInstant zone fields = .ok u := by
  obtain ⟨u, hu⟩ | ⟨field, hfirst, hrefused⟩ | ⟨hfirst, hskipped⟩ :=
    Zone.instantOf_strict_cases hfound fields
  · exact ⟨u, by simp only [toInstant, hu]⟩
  · cases hretry : retryFields? fields (fields.overflowError field) with
    | none =>
      obtain hno | hno := (LocalFields.retryFields_eq_none_iff hfirst).1 hretry
      · exact absurd hno hday
      · exact absurd hno hhour
    | some retried =>
      obtain ⟨u, -, hu⟩ := toInstant_of_retried hfound hrefused hretry
      exact ⟨u, hu⟩
  · have hrange : 0 ≤ fields.hour ∧ fields.hour ≤ 23 := by
      unfold LocalFields.firstOverflow? at hfirst
      split_ifs at hfirst with hmonth hdate hrange
      exact hrange
    obtain ⟨u, -, hu⟩ := toInstant_of_retried hfound hskipped (if_pos hrange)
    exact ⟨u, hu⟩

/-- Whatever is refused has a day or an hour that does not exist, and is refused for that. -/
theorem toInstant_eq_error {e : Error} (h : ctx.toInstant zone fields = .error e) :
    (fields.HasNoSuchDay ∧ e = fields.overflowError .dayOfMonth) ∨
      (fields.HasNoSuchHour ∧ e = fields.overflowError .hourOfDay) := by
  by_cases hday : fields.HasNoSuchDay
  · rw [toInstant_of_not_retried hday.firstOverflow (.inl hday)] at h
    exact .inl ⟨hday, (Except.error.inj h).symm⟩
  · by_cases hhour : fields.HasNoSuchHour
    · rw [toInstant_of_not_retried (LocalFields.firstOverflow_eq_hourOfDay_iff.2 hhour)
        (.inr hhour)] at h
      exact .inr ⟨hhour, (Except.error.inj h).symm⟩
    · obtain ⟨u, hu⟩ := toInstant_eq_ok hfound hday hhour
      rw [hu] at h
      cases h

end Context

/-- Where the source has candidates for every wall clock time, fields are refused for two reasons: a
day that the month does not have, and an hour that no day has. Any other fields have an instant. So
no other field is ever refused, and no skipped time: a second attempt always succeeds. The first one
asks for the days of a month, and is repeated for the sake of a day, in one of the twelve months
only. -/
theorem Session.toInstant_refuses_exactly {session : Session} (hsession : session.IsCoherent)
    (zone : Option Zone) (fields : LocalFields)
    (hanswers : ∀ name, session.context.zoneOr zone = .named name →
      ∀ wall, ∃ candidates, session.context.source.candidateOffsets name wall = .ok candidates) :
    ((∃ e, (toInstant zone fields session).1 = .error e ∧ e.kind = .fieldOverflow .dayOfMonth) ↔
      fields.HasNoSuchDay) ∧
    ((∃ e, (toInstant zone fields session).1 = .error e ∧ e.kind = .fieldOverflow .hourOfDay) ↔
      fields.HasNoSuchHour) ∧
    ((∃ u, (toInstant zone fields session).1 = .ok u) ↔
      ¬ fields.HasNoSuchDay ∧ ¬ fields.HasNoSuchHour) ∧
    (∀ e, (toInstant zone fields session).1 = .error e →
      e = fields.overflowError .dayOfMonth ∨ e = fields.overflowError .hourOfDay) ∧
    ∀ e, (session.context.zoneOr zone).instantOf session.context.source .strict fields = .error e →
      (e.overflowField? = some .dayOfMonth → 1 ≤ fields.month ∧ fields.month ≤ 12) ∧
      ∀ retried, Context.retryFields? fields e = some retried →
        ∃ u, (session.context.zoneOr zone).instantOf session.context.source .lenient retried =
            .ok u ∧
          (toInstant zone fields session).1 = .ok u := by
  have hanswer : (toInstant zone fields session).1 = session.context.toInstant zone fields :=
    (follows_toInstant zone fields session hsession).1
  have hfound := Zone.exists_candidateOffsets hanswers
  have hday (h : fields.HasNoSuchDay) : session.context.toInstant zone fields =
      .error (fields.overflowError .dayOfMonth) :=
    Context.toInstant_of_not_retried h.firstOverflow (.inl h)
  have hhour (h : fields.HasNoSuchHour) : session.context.toInstant zone fields =
      .error (fields.overflowError .hourOfDay) :=
    Context.toInstant_of_not_retried (LocalFields.firstOverflow_eq_hourOfDay_iff.2 h) (.inr h)
  rw [hanswer]
  refine ⟨⟨?_, fun h => ⟨_, hday h, rfl⟩⟩, ⟨?_, fun h => ⟨_, hhour h, rfl⟩⟩,
    ⟨?_, fun h => Context.toInstant_eq_ok hfound h.1 h.2⟩, ?_, ?_⟩
  · rintro ⟨e, he, hkind⟩
    obtain ⟨h, -⟩ | ⟨-, rfl⟩ := Context.toInstant_eq_error hfound he
    · exact h
    · cases hkind
  · rintro ⟨e, he, hkind⟩
    obtain ⟨-, rfl⟩ | ⟨h, -⟩ := Context.toInstant_eq_error hfound he
    · cases hkind
    · exact h
  · rintro ⟨u, hu⟩
    refine ⟨fun h => ?_, fun h => ?_⟩
    · cases hu.symm.trans (hday h)
    · cases hu.symm.trans (hhour h)
  · intro e he
    obtain ⟨-, h⟩ | ⟨-, h⟩ := Context.toInstant_eq_error hfound he
    · exact .inl h
    · exact .inr h
  · intro e he
    refine ⟨fun hfield => ?_, fun retried => Context.toInstant_of_retried hfound he⟩
    obtain ⟨u, hu⟩ | ⟨field, hfirst, hrefused⟩ | ⟨-, hskipped⟩ :=
      Zone.instantOf_strict_cases hfound fields
    · cases he.symm.trans hu
    · cases he.symm.trans hrefused
      cases hfield
      exact (LocalFields.firstOverflow_eq_dayOfMonth_iff.1 hfirst).1
    · cases he.symm.trans hskipped
      cases hfield

/-- In New York, twenty-four o'clock is refused on the day on which the clocks were set forward. -/
theorem Session.toInstant_refuses_exactly_newYork :
    ∃ e, (toInstant (some (.named "America/New_York")) ⟨2017, 3, 12, 24, 0, 0, 0⟩
        (.new ⟨newYork2017.source, .utc⟩)).1 = .error e ∧ e.kind = .fieldOverflow .hourOfDay := by
  have hanswers : ∀ name, Context.zoneOr ⟨newYork2017.source, .utc⟩
      (some (.named "America/New_York")) = .named name →
        ∀ wall, ∃ candidates, newYork2017.source.candidateOffsets name wall = .ok candidates := by
    intro name hname
    cases hname
    exact ((newYork2017.searches _).answers fun t => ⟨_, rfl⟩).candidateOffsets
  obtain ⟨-, hhour, -⟩ := toInstant_refuses_exactly (isCoherent_new ⟨newYork2017.source, .utc⟩)
    (some (.named "America/New_York")) ⟨2017, 3, 12, 24, 0, 0, 0⟩ hanswers
  exact hhour.2 ⟨by decide, by decide⟩

end CivilTime
