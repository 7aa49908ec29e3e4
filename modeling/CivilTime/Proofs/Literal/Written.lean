import CivilTime.Literal.Reader
import CivilTime.Proofs.Clock.Range
import CivilTime.Proofs.Date.Order
import CivilTime.Proofs.Local.Fields
import CivilTime.Proofs.Local.Refusal
import CivilTime.Proofs.Session.Run
import CivilTime.Zone.Catalogue

/-!
# What a timestamp reads as

A text that reads as a timestamp is a date that can be written, a time of day, and possibly a zone,
which is UTC, a fixed offset, or a name that the source of zone data resolved (`read_eq_ok`). A
source that answers for the names it resolves has an instant for every such date and time.
-/

set_option autoImplicit false

namespace CivilTime

open CivilTime.Text

/-! ## Dates -/

/-- A number that is read for 32 bits fits in them. -/
theorem Text.fitsInt32_of_readInt32? {text : List Char} {x : Int} (h : readInt32? text = some x) :
    FitsInt32 x :=
  of_decide_eq_true (Option.filter_eq_some_iff.1 h).2

/-- A date that is read can be written. -/
theorem Date.isWritable_of_read {text : List Char} {d : Date} (h : Date.read text = .ok d) :
    d.IsWritable := by
  unfold Date.read readFields? at h
  split at h
  · cases h
  next fields hfields =>
    split at hfields
    · cases hfields
    · split at hfields
      next hyear _ _ =>
        obtain ⟨rfl, rfl, rfl⟩ : _ ∧ _ ∧ _ := by
          simpa only [Option.some.injEq, Prod.mk.injEq] using hfields
        exact ⟨_, _, _, fitsInt32_of_readInt32? hyear, h⟩
      · cases hfields

/-! ## Zones that were told -/

/-- The source answers for the zone, if that has a name. -/
def ZoneSource.AnswersFor (source : ZoneSource) (zone : Zone) : Prop :=
  ∀ name, zone = .named name → source.Answers name

/-- Every instant has a record in a zone that the source answers for. -/
theorem ZoneSource.AnswersFor.exists_offsetAt {source : ZoneSource} {zone : Zone}
    (h : source.AnswersFor zone) (t : Int) : ∃ record, zone.offsetAt source t = .ok record :=
  Zone.exists_offsetAt (fun name hname => (h name hname).offsetAt) t

/-- Every time has candidates in a zone that the source answers for. -/
theorem ZoneSource.AnswersFor.exists_candidateOffsets {source : ZoneSource} {zone : Zone}
    (h : source.AnswersFor zone) (wall : Int) :
    ∃ candidates, zone.candidateOffsets source wall = .ok candidates :=
  Zone.exists_candidateOffsets (fun name hname => (h name hname).candidateOffsets) wall

/-- The source answers for every name that it resolves. -/
def ZoneSource.AnswersForNames (source : ZoneSource) : Prop :=
  ∀ name zone, Zone.ofName source name = .ok zone → source.AnswersFor zone

/-- A source that answers for its names answers for the zones that designators resolve to. -/
theorem ZoneSource.AnswersForNames.of_resolve {source : ZoneSource} (h : source.AnswersForNames)
    {designator : ZoneDesignator} {zone : Zone} (hzone : designator.resolve source = .ok zone) :
    source.AnswersFor zone := by
  cases designator with
  | utc =>
    cases hzone
    rintro name ⟨⟩
  | offset text =>
    change Zone.ofDesignator text = .ok zone at hzone
    unfold Zone.ofDesignator at hzone
    split at hzone
    · cases hzone
    · split at hzone
      · cases hzone
        rintro name ⟨⟩
      · cases hzone
  | named written => exact h _ _ hzone

/-- What a catalogue resolves a name to, it has an entry for. -/
theorem Catalogue.lookup_of_canonicalName {catalogue : Catalogue} {name canonical : String}
    (h : catalogue.canonicalName name = .ok canonical) :
    ∃ entry ∈ catalogue, catalogue.lookup canonical = .ok entry.data := by
  unfold canonicalName at h
  split at h
  next entry hentry =>
    cases h
    have hknown : (catalogue.find? fun other =>
        other.name == entry.canonical || other.canonical == entry.canonical).isSome := by
      rw [List.find?_isSome]
      exact ⟨entry, List.mem_of_find?_eq_some hentry, by simp⟩
    obtain ⟨found, hfound⟩ := Option.isSome_iff_exists.1 hknown
    exact ⟨found, List.mem_of_find?_eq_some hfound, by simp only [lookup, hfound]⟩
  · cases h

/-- A catalogue of tables answers for its names. -/
theorem Catalogue.answersForNames_of_tables {catalogue : Catalogue}
    (h : ∀ entry ∈ catalogue, ∃ initial transitions standardOffset,
      entry.data = .table initial transitions standardOffset) : catalogue.source.AnswersForNames := by
  intro written zone hname name hzone
  unfold Zone.ofName at hname
  split at hname
  · cases hname
  next resolved hresolved =>
    obtain ⟨entry, hmem, hlookup⟩ := lookup_of_canonicalName hresolved
    obtain ⟨initial, transitions, standardOffset, hdata⟩ := h entry hmem
    split at hname
    · obtain rfl := Zone.named.inj ((Except.ok.inj hname).trans hzone)
      refine (catalogue.searches resolved).answers fun t => ?_
      refine ⟨tableRecordAt initial transitions t, ?_⟩
      change (catalogue.lookup resolved).bind _ = _
      simp only [hlookup, hdata, Except.bind, ZoneData.recordAt]
    · cases hname

/-! ## Timestamps -/

namespace WrittenTimestamp

variable {source : ZoneSource} {dialect : Dialect} {text : List Char} {written : WrittenTimestamp}

/-- A text that reads as a timestamp has a date that can be written, a time of day, and no zone but
one that something resolved to. -/
theorem read_eq_ok (h : read source dialect text = .ok written) :
    written.date.IsWritable ∧ Clock.IsTimeOfDay written.nanos ∧
      ∀ zone, written.zone = some zone →
        ∃ designator : ZoneDesignator, designator.resolve source = .ok zone := by
  unfold read at h
  split at h
  · split at h
    · cases h
    next hdate =>
      cases h
      exact ⟨Date.isWritable_of_read hdate, (by decide : Clock.IsTimeOfDay 0), by simp⟩
  · split at h
    · cases h
    next hdate =>
      split at h
      · cases h
      next htime =>
        split at h
        · cases h
          exact ⟨Date.isWritable_of_read hdate, Clock.isTimeOfDay_of_read htime, by simp⟩
        next designator _ =>
          split at h
          · cases h
          next zone hzone =>
            cases h
            refine ⟨Date.isWritable_of_read hdate, Clock.isTimeOfDay_of_read htime, ?_⟩
            rintro zone' heq
            cases heq
            exact ⟨designator, hzone⟩

/-- The source answers for the zone that a text tells. -/
theorem answers_of_told (h : read source dialect text = .ok written)
    (hanswers : source.AnswersForNames) {zone : Zone} (hzone : written.zone = some zone) :
    source.AnswersFor zone := by
  obtain ⟨designator, hresolve⟩ := (read_eq_ok h).2.2 zone hzone
  exact hanswers.of_resolve hresolve

end WrittenTimestamp

/-! ## Instants of dates and times -/

/-- Fields in their ranges have a day and an hour that exist. -/
theorem LocalFields.InCalendar.not_refused {fields : LocalFields} (h : fields.InCalendar) :
    ¬ fields.HasNoSuchDay ∧ ¬ fields.HasNoSuchHour :=
  ⟨fun hday => hday.2 h.date.2.1, fun hhour => hhour.2 h.hour⟩

namespace Context

variable {ctx : Context}

/-- A date of the calendar with a time of day has an instant wherever times have candidates, also if
the zone skipped it. -/
theorem exists_dateTimeToInstant {zone : Option Zone}
    (hfound : ∀ wall, ∃ candidates,
      (ctx.zoneOr zone).candidateOffsets ctx.source wall = .ok candidates)
    {d : Date} {nanos : Int} (hd : d.IsValid) (hnanos : Clock.IsTimeOfDay nanos) :
    ∃ u, ctx.dateTimeToInstant zone d (nanos.tdiv Clock.nanosPerMilli) = .ok u := by
  obtain ⟨hday, hhour⟩ :=
    (LocalFields.inCalendar_ofDateMillis hd hnanos.millis_range).not_refused
  exact toInstant_eq_ok hfound hday hhour

/-- The offset that is read is that of the record in effect at the instant. -/
theorem offsetMinutesOf_eq_ok {zone : Zone} {d : Date} {nanos u : Int}
    (hinstant : ctx.dateTimeToInstant (some zone) d (nanos.tdiv Clock.nanosPerMilli) = .ok u)
    {record : LocalRecord} (hrecord : zone.offsetAt ctx.source (u / 1000) = .ok record) :
    ctx.offsetMinutesOf zone d nanos = .ok (record.offset.tdiv 60) := by
  by_cases hutc : zone = .utc
  · subst hutc
    cases hrecord
    rfl
  · have hseconds : ctx.offsetSecondsAt (some zone) u = .ok record.offset := by
      simp only [offsetSecondsAt, zoneOr, Option.getD_some, hrecord]
    rw [ctx.offsetMinutesOf_eq hutc, hinstant]
    simp only [Except.bind, hseconds]

end Context

end CivilTime
