import CivilTime.Literal.Printer
import CivilTime.Proofs.Clock.Text
import CivilTime.Proofs.Date.Order
import CivilTime.Proofs.Date.Text
import CivilTime.Proofs.Local.Resolution
import CivilTime.Proofs.Zone.Offset

/-!
# Literals come back from their texts

The text of a timestamp is cut at its only space, since none of its parts has one; the offset is
split off at its sign, since a time of day has none. An offset that was written is a zone of its
own, so that the source of zone data, the default zone and the calendars of a session are never
asked.
-/

set_option autoImplicit false

namespace CivilTime

open CivilTime.Text

/-! ## What can be written -/

/-- A literal that a user may write. -/
def Literal.IsWritable : Literal → Prop
  | .date d => d.IsWritable
  | .time nanos => Clock.IsTimeOfDay nanos
  | .timestamp d nanos => d.IsWritable ∧ Clock.IsTimeOfDay nanos
  | .timestampWithOffset d nanos offsetMinutes =>
    d.IsWritable ∧ Clock.IsTimeOfDay nanos ∧ -1440 < offsetMinutes ∧ offsetMinutes < 1440

namespace Date

/-- A date is read back from its text. -/
theorem IsWritable.read_write {d : Date} (h : d.IsWritable) : read d.write = .ok d := by
  obtain ⟨year, month, day, hyear, hfields⟩ := h
  exact read_write_of_ofFields hyear hfields

end Date

/-! ## The parts of a timestamp -/

/-- The date ends at the space, in every dialect. -/
theorem splitDateTime_write (dialect : Dialect) (d : Date) (rest : List Char) :
    splitDateTime dialect (d.write ++ ' ' :: rest) = some (d.write, rest) := by
  have hspace : ' ' ∉ d.write := Date.not_mem_write (by decide) (by decide) d
  unfold splitDateTime
  rw [cut_append hspace]

namespace ZoneDesignator

/-- No character of the text is one that tells a zone. -/
structure TellsNoZone (text : List Char) : Prop where
  utc : 'Z' ∉ text
  name : ' ' ∉ text
  east : '+' ∉ text
  west : '-' ∉ text

/-- The text of a time of day is not taken for one with a zone. -/
theorem tellsNoZone_write {nanos : Int} (h : 0 ≤ nanos) (always : Bool) :
    TellsNoZone (Clock.write nanos always) := by
  constructor <;> exact Clock.not_mem_write h always (by decide) (by decide) (by decide)

/-- Where no zone is told, none is split off. -/
theorem splitOff_of_tellsNoZone {text : List Char} (h : TellsNoZone text) :
    splitOff text = (text, none) := by
  have hlast : text.getLast? ≠ some 'Z' := fun heq => h.utc (List.mem_of_getLast? heq)
  rw [splitOff, if_neg hlast, takeWhile_of_not_mem h.name]
  dsimp only
  rw [if_neg h.east, if_neg h.west, cut_eq_none h.name]

/-- An offset is split off before its sign, if the text tells no zone elsewhere. -/
theorem splitOff_append {time rest : List Char} {sign : Char} (hsign : sign = '+' ∨ sign = '-')
    (htime : TellsNoZone time) (hrest : TellsNoZone rest) :
    splitOff (time ++ sign :: rest) = (time, some (.offset (sign :: rest))) := by
  have hother : ∀ c, c ∉ time → c ∉ rest → c ≠ sign → c ∉ time ++ sign :: rest := by
    intro c hc hc' hne
    simp [hc, hc', hne]
  have hutc : 'Z' ∉ time ++ sign :: rest := by
    refine hother 'Z' htime.utc hrest.utc ?_
    rcases hsign with rfl | rfl <;> decide
  have hname : ' ' ∉ time ++ sign :: rest := by
    refine hother ' ' htime.name hrest.name ?_
    rcases hsign with rfl | rfl <;> decide
  have hlast : (time ++ sign :: rest).getLast? ≠ some 'Z' := fun heq =>
    hutc (List.mem_of_getLast? heq)
  have hmem : sign ∈ time ++ sign :: rest := List.mem_append_right _ List.mem_cons_self
  rw [splitOff, if_neg hlast, takeWhile_of_not_mem hname]
  dsimp only
  -- a plus is looked for first, and stands nowhere before a minus
  rcases hsign with rfl | rfl
  · rw [if_pos hmem, takeWhile_append_sep htime.east, dropWhile_append_sep htime.east]
  · rw [if_neg (hother '+' htime.east hrest.east (by decide)), if_pos hmem,
      takeWhile_append_sep htime.west, dropWhile_append_sep htime.west]

/-- A written offset is split off a written time. -/
theorem splitOff_write_offset {nanos : Int} (h : 0 ≤ nanos) (always : Bool) (minutes : Int) :
    splitOff (Clock.write nanos always ++ writeOffsetMinutes minutes) =
      (Clock.write nanos always, some (.offset (writeOffsetMinutes minutes))) := by
  obtain ⟨text, heq, hother⟩ := exists_writeOffsetMinutes_eq_cons minutes
  have hsign : signOfMinutes minutes = '+' ∨ signOfMinutes minutes = '-' := by
    unfold signOfMinutes
    split
    · exact Or.inr rfl
    · exact Or.inl rfl
  have htext : TellsNoZone text := by
    constructor <;> exact hother _ (by decide) (by decide)
  rw [heq]
  exact splitOff_append hsign (tellsNoZone_write h always) htext

end ZoneDesignator

/-- A timestamp comes back from its text, with the zone of its offset if it has one. -/
theorem WrittenTimestamp.read_writeTimestamp (source : ZoneSource) (dialect : Dialect) {d : Date}
    {nanos : Int} (hd : d.IsWritable) (hnanos : Clock.IsTimeOfDay nanos) (always : Bool)
    (offset : Option UtcOffset) :
    read source dialect (writeTimestamp d nanos always (offset.map UtcOffset.minutes)) =
      .ok ⟨d, nanos, offset.map Zone.fixed⟩ := by
  cases offset with
  | none =>
    simp only [writeTimestamp, Option.map_none, List.append_nil, read, splitDateTime_write,
      hd.read_write,
      ZoneDesignator.splitOff_of_tellsNoZone (ZoneDesignator.tellsNoZone_write hnanos.1 always),
      Clock.read_write always hnanos]
  | some offset =>
    simp only [writeTimestamp, Option.map_some, List.append_assoc, List.cons_append, read,
      splitDateTime_write, hd.read_write, ZoneDesignator.splitOff_write_offset hnanos.1,
      Clock.read_write always hnanos, ZoneDesignator.resolve,
      Zone.ofDesignator_writeOffsetMinutes]

/-! ## Literals -/

namespace Session

/-- The offset of a zone of a fixed offset is that offset, at every date and time. -/
theorem offsetMinutesOf_fixed (session : Session) (offset : UtcOffset) {d : Date} {nanos : Int}
    (hd : d.IsValid) (hnanos : Clock.IsTimeOfDay nanos) :
    (offsetMinutesOf (.fixed offset) d nanos session).1 = .ok offset.minutes := by
  have hinstant : (dateTimeToInstant (some (.fixed offset)) d
      (nanos.tdiv Clock.nanosPerMilli) session).1 =
      .ok (wrapInt64 ((LocalFields.ofDateMillis d (nanos.tdiv Clock.nanosPerMilli)).exactMillis -
        (LocalRecord.standard offset.seconds).offset * 1000)) := by
    rw [dateTimeToInstant, toInstant_some]
    exact Context.toInstant_of_strict (Zone.instantOf_strict
      (LocalFields.inCalendar_ofDateMillis hd hnanos.millis_range) rfl rfl)
  have hseconds : (offset.minutes * 60).tdiv 60 = offset.minutes :=
    Int.mul_tdiv_cancel offset.minutes (by decide)
  unfold offsetMinutesOf
  rw [bind_of_ok hinstant]
  -- the offset is measured at that instant, but is the same at any other
  change Except.ok ((offset.minutes * 60).tdiv 60) = _
  rw [hseconds]

/-- A timestamp without a zone is read back from its text. -/
theorem readTimestamp_write (session : Session) (dialect : Dialect) {d : Date} {nanos : Int}
    (hd : d.IsWritable) (hnanos : Clock.IsTimeOfDay nanos) (always : Bool) :
    (readTimestamp dialect false (writeTimestamp d nanos always none) session).1 =
      .ok (.timestamp d nanos) := by
  have hread : (ask (fun ctx => WrittenTimestamp.read ctx.source dialect
      (writeTimestamp d nanos always none)) session).1 = .ok ⟨d, nanos, none⟩ :=
    WrittenTimestamp.read_writeTimestamp session.context.source dialect hd hnanos always none
  unfold readTimestamp
  rw [bind_of_ok hread]
  rfl

/-- A timestamp with an offset is read back from its text, and its offset with it. -/
theorem readTimestamp_write_offset (session : Session) (dialect : Dialect) {d : Date}
    {nanos : Int} (hd : d.IsWritable) (hnanos : Clock.IsTimeOfDay nanos) (always : Bool)
    (offset : UtcOffset) :
    (readTimestamp dialect true (writeTimestamp d nanos always (some offset.minutes)) session).1 =
      .ok (.timestampWithOffset d nanos offset.minutes) := by
  have hread : (ask (fun ctx => WrittenTimestamp.read ctx.source dialect
      (writeTimestamp d nanos always (some offset.minutes))) session).1 =
      .ok ⟨d, nanos, some (.fixed offset)⟩ :=
    WrittenTimestamp.read_writeTimestamp session.context.source dialect hd hnanos always
      (some offset)
  unfold readTimestamp
  rw [bind_of_ok hread]
  change (zonedTimestamp true (.fixed offset) d nanos session).1 = _
  unfold zonedTimestamp
  rw [if_pos rfl, bind_of_ok (offsetMinutesOf_fixed session offset hd.isValid hnanos)]
  rfl

/-- Reading undoes writing, for literals of every kind. In every dialect and every session, with
any source of zone data, default zone and kept calendars, a literal that a user may write comes
back from its canonical text; a time comes back with or without a fraction that it does not
need. -/
theorem readLiteral_write (session : Session) (dialect : Dialect) {v : Literal}
    (h : v.IsWritable) :
    (readLiteral dialect v.kind v.write session).1 = .ok v ∧
      ∀ nanos always, v = .time nanos →
        (readLiteral dialect .time (Clock.write nanos always) session).1 = .ok v := by
  refine ⟨?_, ?_⟩
  · cases v with
    | date d =>
      change (Date.read d.write).map Literal.date = _
      rw [Date.IsWritable.read_write h]
      rfl
    | time nanos =>
      change (Clock.read .timeOfDay (Clock.write nanos false)).map Literal.time = _
      rw [Clock.read_write false h]
      rfl
    | timestamp d nanos => exact readTimestamp_write session dialect h.1 h.2 false
    | timestampWithOffset d nanos offsetMinutes =>
      exact readTimestamp_write_offset session dialect h.1 h.2.1 true ⟨offsetMinutes, h.2.2⟩
  · rintro nanos always rfl
    change (Clock.read .timeOfDay (Clock.write nanos always)).map Literal.time = _
    rw [Clock.read_write always h]
    rfl

/-- The dash dialect, a negative year and an offset of less than an hour west of UTC. -/
theorem readLiteral_write_west :
    (readLiteral ⟨true⟩ .timestampWithTimeZone "-44-03-15 01:30:00.0-00:30".toList
      (.new ⟨.empty, .utc⟩)).1 =
      .ok (.timestampWithOffset (.pack (-44) 3 15) 5400000000000 (-30)) := by
  have htext : Literal.write (.timestampWithOffset (.pack (-44) 3 15) 5400000000000 (-30)) =
      "-44-03-15 01:30:00.0-00:30".toList := by decide
  rw [← htext]
  exact (readLiteral_write (.new ⟨.empty, .utc⟩) ⟨true⟩
    (v := .timestampWithOffset (.pack (-44) 3 15) 5400000000000 (-30))
    ⟨⟨-44, 3, 15, by decide, rfl⟩, by decide, by decide, by decide⟩).1

end Session

end CivilTime
