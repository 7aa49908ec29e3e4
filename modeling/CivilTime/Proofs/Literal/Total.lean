import CivilTime.Proofs.Literal.Positions
import CivilTime.Proofs.Literal.Written
import CivilTime.Proofs.Local.Nanos
import CivilTime.Proofs.Zone.Steady

/-!
# Every text is answered

A text of any characters reads as a literal of the kind that is asked for, or it is refused because
it is malformed, because it names no day, or because its zone could not be resolved
(`readLiteral_total`). The conversions behind it do not fail: the date and the time of day that were
read have an instant, also where the clocks skipped them, so no overflow of a field comes to light.
-/

set_option autoImplicit false

namespace CivilTime

open CivilTime.Text

/-! ## What is wrong with a text -/

/-- A date is refused for its form, or as a day that the calendar does not have. -/
theorem Date.kind_of_read {text : List Char} {e : Error} (h : read text = .error e) :
    e.kind = .malformed ∨ e.kind = .invalidDate := by
  unfold read at h
  split at h
  · cases h
    exact Or.inl rfl
  · unfold ofFields at h
    split at h
    · cases h
    · cases h
      exact Or.inr rfl

/-- A time is refused for its form only. -/
theorem Clock.kind_of_read {mode : Mode} {text : List Char} {e : Error}
    (h : read mode text = .error e) : e.kind = .malformed := by
  unfold read at h
  split at h
  · cases h
  · cases h
    rfl

/-- A source that refuses names with errors of the kind for zones only. -/
def ZoneSource.RefusesNames (source : ZoneSource) : Prop :=
  ∀ name e, source.canonicalName name = .error e → e.kind = .timeZone

/-- A catalogue refuses a name as one of a time zone. -/
theorem Catalogue.refusesNames (catalogue : Catalogue) : catalogue.source.RefusesNames := by
  intro name e h
  change catalogue.canonicalName name = .error e at h
  unfold canonicalName at h
  split at h
  · cases h
  · cases h
    rfl

/-- A designator is refused as one of a time zone. -/
theorem ZoneDesignator.kind_of_resolve {source : ZoneSource} (hrefuses : source.RefusesNames)
    {designator : ZoneDesignator} {e : Error} (h : designator.resolve source = .error e) :
    e.kind = .timeZone := by
  cases designator with
  | utc => cases h
  | offset text =>
    change Zone.ofDesignator text = .error e at h
    unfold Zone.ofDesignator at h
    split at h
    · cases h
      rfl
    · split at h
      · cases h
      · cases h
        rfl
  | named name =>
    change Zone.ofName source (String.ofList name) = .error e at h
    unfold Zone.ofName at h
    split at h
    next hcanonical =>
      cases h
      exact hrefuses _ _ hcanonical
    · split at h
      · cases h
      · cases h
        rfl

/-- The kinds of errors with which a text is refused. -/
def ErrorKind.IsOfReading (kind : ErrorKind) : Prop :=
  kind = .malformed ∨ kind = .invalidDate ∨ kind = .timeZone

/-- The errors of a date are errors of reading. -/
theorem Date.isOfReading_of_read {text : List Char} {e : Error} (h : read text = .error e) :
    e.kind.IsOfReading :=
  (kind_of_read h).imp_right Or.inl

/-- The errors of a written timestamp are errors of reading. -/
theorem WrittenTimestamp.isOfReading_of_read {source : ZoneSource}
    (hrefuses : source.RefusesNames) {dialect : Dialect} {text : List Char} {e : Error}
    (h : read source dialect text = .error e) : e.kind.IsOfReading := by
  unfold read at h
  split at h
  · split at h
    next hdate =>
      cases h
      exact Date.isOfReading_of_read hdate
    · cases h
  · split at h
    next hdate =>
      cases h
      exact Date.isOfReading_of_read hdate
    · split at h
      next htime =>
        cases h
        exact Or.inl (Clock.kind_of_read htime)
      · split at h
        · cases h
        · split at h
          next hzone =>
            cases h
            exact Or.inr (Or.inr (ZoneDesignator.kind_of_resolve hrefuses hzone))
          · cases h

/-! ## What comes of a timestamp -/

namespace Context

variable {ctx : Context} {zone : Zone} {d : Date} {nanos : Int}

/-- A date with a time of day in a zone that the source answers for is a timestamp with its offset,
and one in the default zone if that has a record at every instant, too. -/
theorem exists_zonedTimestamp
    (hanswers : ctx.source.AnswersFor zone)
    (hdefault : ∀ name, ctx.defaultZone.zone = .named name →
      ∀ t, ∃ record, ctx.source.offsetAt name t = .ok record)
    (hd : d.IsValid) (hnanos : Clock.IsTimeOfDay nanos) :
    (∃ minutes, ctx.zonedTimestamp true zone d nanos =
      .ok (.timestampWithOffset d nanos minutes)) ∧
    ∃ d' nanos', ctx.zonedTimestamp false zone d nanos = .ok (.timestamp d' nanos') := by
  obtain ⟨u, hinstant⟩ :=
    @exists_dateTimeToInstant ctx (some zone) hanswers.exists_candidateOffsets d nanos hd hnanos
  constructor
  · obtain ⟨record, hrecord⟩ := hanswers.exists_offsetAt (u / 1000)
    refine ⟨record.offset.tdiv 60, ?_⟩
    simp only [zonedTimestamp, if_true, offsetMinutesOf_eq_ok hinstant hrecord]
  · obtain ⟨record, hrecord⟩ := Zone.exists_offsetAt hdefault (u / 1000)
    have hfields : ctx.fieldsAt none u = .ok (.ofMillis (wrapInt64 (u + record.offset * 1000))) :=
      Zone.fieldsAt_of_offsetAt hrecord
    simp only [zonedTimestamp, Bool.false_eq_true, if_false, inDefaultZone, hinstant, dateAt, nanosAt,
      hfields]
    exact ⟨_, _, rfl⟩

/-- A text reads as a timestamp of the kind that is asked for, or it is refused as malformed, for
its date, or for its zone. -/
theorem readTimestamp_answers (hrefuses : ctx.source.RefusesNames)
    (hanswers : ctx.source.AnswersForNames)
    (hdefault : ∀ name, ctx.defaultZone.zone = .named name →
      ∀ t, ∃ record, ctx.source.offsetAt name t = .ok record)
    (dialect : Dialect) (wantOffset : Bool) (text : List Char) :
    (∃ literal, ctx.readTimestamp dialect wantOffset text = .ok literal ∧
      literal.kind = if wantOffset then .timestampWithTimeZone else .timestamp) ∨
    ∃ e, ctx.readTimestamp dialect wantOffset text = .error e ∧ e.kind.IsOfReading := by
  unfold readTimestamp
  cases hread : WrittenTimestamp.read ctx.source dialect text with
  | error e => exact Or.inr ⟨e, rfl, WrittenTimestamp.isOfReading_of_read hrefuses hread⟩
  | ok written =>
    left
    obtain ⟨d, nanos, told⟩ := written
    obtain ⟨hwritable, hnanos, -⟩ : d.IsWritable ∧ Clock.IsTimeOfDay nanos ∧ _ :=
      WrittenTimestamp.read_eq_ok hread
    cases told with
    | none => cases wantOffset <;> exact ⟨_, rfl, rfl⟩
    | some zone =>
      obtain ⟨⟨minutes, hkept⟩, d', nanos', hdropped⟩ := exists_zonedTimestamp
        (WrittenTimestamp.answers_of_told hread hanswers rfl) hdefault hwritable.isValid hnanos
      cases wantOffset with
      | true => exact ⟨_, hkept, rfl⟩
      | false => exact ⟨_, hdropped, rfl⟩

end Context

namespace Session

/-- Whatever characters a text has, it is read without a slice that does not exist. It reads as a
literal of the kind that is asked for, or it is refused as malformed, because it names no day, or
because its zone is not resolved; a conversion that fails is not among the answers. It is supposed
that the source refuses names as names of zones only, that it has a record at every instant and
candidates for every time in the zones it resolves, and a record at every instant in the default
zone. Nothing is supposed of how far a date is from 1970: milliseconds that do not fit in 64 bits
wrap, and lead to an instant as well. -/
theorem readLiteral_total {session : Session} (hsession : session.IsCoherent)
    (hrefuses : session.context.source.RefusesNames)
    (hanswers : session.context.source.AnswersForNames)
    (hdefault : ∀ name, session.context.defaultZone.zone = .named name →
      ∀ t, ∃ record, session.context.source.offsetAt name t = .ok record)
    (dialect : Dialect) (kind : LiteralKind) (text : List Char) :
    readLiteralByPositions dialect kind text session =
      some (readLiteral dialect kind text session) ∧
    ((∃ literal, (readLiteral dialect kind text session).1 = .ok literal ∧ literal.kind = kind) ∨
      ∃ e, (readLiteral dialect kind text session).1 = .error e ∧
        (e.kind = .malformed ∨ e.kind = .invalidDate ∨ e.kind = .timeZone)) := by
  refine ⟨readLiteralByPositions_eq dialect kind text session, ?_⟩
  have hanswer : (readLiteral dialect kind text session).1 =
      session.context.readLiteral dialect kind text :=
    (follows_readLiteral dialect kind text session hsession).1
  rw [hanswer]
  cases kind with
  | date =>
    change (∃ literal, (Date.read text).map Literal.date = .ok literal ∧ _) ∨
      ∃ e, (Date.read text).map Literal.date = .error e ∧ _
    cases hread : Date.read text with
    | error e => exact Or.inr ⟨e, rfl, Date.isOfReading_of_read hread⟩
    | ok d => exact Or.inl ⟨.date d, rfl, rfl⟩
  | time =>
    change (∃ literal, (Clock.read .timeOfDay text).map Literal.time = .ok literal ∧ _) ∨
      ∃ e, (Clock.read .timeOfDay text).map Literal.time = .error e ∧ _
    cases hread : Clock.read .timeOfDay text with
    | error e => exact Or.inr ⟨e, rfl, Or.inl (Clock.kind_of_read hread)⟩
    | ok nanos => exact Or.inl ⟨.time nanos, rfl, rfl⟩
  | timestamp => exact Context.readTimestamp_answers hrefuses hanswers hdefault dialect false text
  | timestampWithTimeZone =>
    exact Context.readTimestamp_answers hrefuses hanswers hdefault dialect true text

/-- A first character of two bytes, from the second of which the dashes are searched for. -/
theorem readLiteral_total_accented :
    readLiteralByPositions .standard .timestamp "é-03-12".toList
        (.new ⟨newYork2017.source, ⟨.named "America/New_York", -18000⟩⟩) =
      some (.error (.malformed "é-03-12".toList),
        .new ⟨newYork2017.source, ⟨.named "America/New_York", -18000⟩⟩) := by
  have hanswers : newYork2017.source.AnswersForNames :=
    Catalogue.answersForNames_of_tables (by simp [newYork2017])
  rw [(readLiteral_total (isCoherent_new ⟨newYork2017.source, ⟨.named "America/New_York", -18000⟩⟩)
    newYork2017.refusesNames hanswers (by
      intro name hname t
      obtain rfl : "America/New_York" = name := Zone.named.inj hname
      exact ⟨_, rfl⟩) .standard .timestamp "é-03-12".toList).1]
  rfl

end Session

end CivilTime
