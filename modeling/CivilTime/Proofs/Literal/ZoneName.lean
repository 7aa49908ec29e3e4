import CivilTime.Proofs.Literal.RoundTrip
import CivilTime.Zone.Catalogue

/-!
# Zone names after a timestamp

After the canonical texts of a date and a time, a space and the name of a zone tell that zone,
whatever signs, dashes, spaces or digits the name has: the time has none of them, so the first
space is the one before the name, and no sign is looked for after it. Only a name that ends with a
`Z` is taken apart. Its last letter is taken for the designator of UTC, and the rest of the name
stays with the time, which then is no time any more (`readTimestamp_zoneName`).
-/

set_option autoImplicit false

namespace CivilTime

open CivilTime.Text

/-! ## The designator -/

namespace ZoneDesignator

/-- A `Z` at the end counts before everything else, also where it is the last letter of a name. -/
theorem splitOff_append_name_utc (time init : List Char) :
    splitOff (time ++ ' ' :: (init ++ ['Z'])) = (time ++ ' ' :: init, some .utc) := by
  have hend : time ++ ' ' :: (init ++ ['Z']) = time ++ ' ' :: init ++ ['Z'] := by
    rw [List.append_assoc, List.cons_append]
  rw [hend, splitOff, if_pos List.getLast?_concat, List.dropLast_concat]

/-- Of a name that does not end with a `Z` nothing is taken for another designator. -/
theorem splitOff_append_name {time name : List Char} (htime : TellsNoZone time)
    (hname : name.getLast? ≠ some 'Z') :
    splitOff (time ++ ' ' :: name) = (time, some (.named name)) := by
  have hlast : (time ++ ' ' :: name).getLast? ≠ some 'Z' := by
    rw [List.getLast?_append_cons, List.getLast?_cons]
    cases hend : name.getLast? with
    | none => decide
    | some c =>
      rw [hend] at hname
      exact hname
  rw [splitOff, if_neg hlast, takeWhile_append_sep htime.name]
  dsimp only
  rw [if_neg htime.east, if_neg htime.west, cut_append htime.name]

end ZoneDesignator

/-! ## The written timestamp -/

namespace WrittenTimestamp

variable (source : ZoneSource) (dialect : Dialect) {d : Date} {nanos : Int}

/-- A name after a space is read as the zone, if it does not end with `Z`. -/
theorem read_append_name (hd : d.IsWritable) (hnanos : Clock.IsTimeOfDay nanos) (always : Bool)
    {name : List Char} (hname : name.getLast? ≠ some 'Z') {zone : Zone}
    (hzone : Zone.ofName source (String.ofList name) = .ok zone) :
    read source dialect (d.write ++ ' ' :: (Clock.write nanos always ++ ' ' :: name)) =
      .ok ⟨d, nanos, some zone⟩ := by
  have hsplit := ZoneDesignator.splitOff_append_name
    (ZoneDesignator.tellsNoZone_write hnanos.1 always) hname
  simp only [read, splitDateTime_write, hd.read_write, hsplit, Clock.read_write always hnanos,
    ZoneDesignator.resolve, hzone]

/-- A name without its last letter is no end of a time. -/
theorem read_append_name_utc (hd : d.IsWritable) (nanos : Int) (always : Bool)
    (init : List Char) :
    read source dialect
        (d.write ++ ' ' :: (Clock.write nanos always ++ ' ' :: (init ++ ['Z']))) =
      .error (.malformed (Clock.write nanos always ++ ' ' :: init)) := by
  have hspace : ' ' ∈ ' ' :: init := List.mem_cons_self
  simp only [read, splitDateTime_write, hd.read_write, ZoneDesignator.splitOff_append_name_utc,
    Clock.read_write_append .timeOfDay nanos always (by decide) (by decide) hspace]

end WrittenTimestamp

/-! ## The timestamp -/

namespace Session

/-- A name that stands for a zone can be written after the canonical texts of a date and a time, in
every dialect and session, and the timestamp is then one of that zone. The names that end with a
`Z` are the exception: they never tell their zone, and the timestamp is refused. -/
theorem readTimestamp_zoneName (session : Session) (dialect : Dialect) (wantOffset : Bool)
    {d : Date} (hd : d.IsWritable) {nanos : Int} (hnanos : Clock.IsTimeOfDay nanos) (always : Bool)
    {name : List Char} {zone : Zone}
    (hzone : Zone.ofName session.context.source (String.ofList name) = .ok zone) :
    (name.getLast? ≠ some 'Z' →
      ZoneDesignator.splitOff (Clock.write nanos always ++ ' ' :: name) =
        (Clock.write nanos always, some (.named name)) ∧
      readTimestamp dialect wantOffset
          (d.write ++ ' ' :: (Clock.write nanos always ++ ' ' :: name)) session =
        zonedTimestamp wantOffset zone d nanos session) ∧
    (∀ init, name = init ++ ['Z'] →
      ZoneDesignator.splitOff (Clock.write nanos always ++ ' ' :: name) =
        (Clock.write nanos always ++ ' ' :: init, some .utc) ∧
      readTimestamp dialect wantOffset
          (d.write ++ ' ' :: (Clock.write nanos always ++ ' ' :: name)) session =
        (.error (.malformed (Clock.write nanos always ++ ' ' :: init)), session)) := by
  constructor
  · intro hname
    refine ⟨ZoneDesignator.splitOff_append_name
      (ZoneDesignator.tellsNoZone_write hnanos.1 always) hname, ?_⟩
    rw [readTimestamp, bind_eq, ask, WrittenTimestamp.read_append_name session.context.source
      dialect hd hnanos always hname hzone]
  · rintro init rfl
    refine ⟨ZoneDesignator.splitOff_append_name_utc _ init, ?_⟩
    rw [readTimestamp, bind_eq, ask, WrittenTimestamp.read_append_name_utc session.context.source
      dialect hd nanos always init]

/-- Haiti, five hours west of UTC. -/
def portAuPrince : Catalogue :=
  [⟨"America/Port-au-Prince", "America/Port-au-Prince", .table (.standard (-18000)) [] (-18000)⟩]

/-- The dashes of the name are no signs. -/
theorem readTimestamp_zoneName_portAuPrince :
    (readTimestamp .standard true "2020-07-01 12:00:00 America/Port-au-Prince".toList
      (.new ⟨portAuPrince.source, .utc⟩)).1 =
      .ok (.timestampWithOffset (.pack 2020 7 1) 43200000000000 (-300)) := by
  have htext : (Date.pack 2020 7 1).write ++ ' ' :: (Clock.write 43200000000000 false ++
      ' ' :: "America/Port-au-Prince".toList) =
        "2020-07-01 12:00:00 America/Port-au-Prince".toList := by decide
  have hzone : Zone.ofName portAuPrince.source (String.ofList "America/Port-au-Prince".toList) =
      .ok (.named "America/Port-au-Prince") := by decide
  obtain ⟨hnamed, -⟩ := @readTimestamp_zoneName (.new ⟨portAuPrince.source, .utc⟩) .standard true
    (.pack 2020 7 1) ⟨2020, 7, 1, by decide, rfl⟩ 43200000000000 (by decide) false _ _ hzone
  rw [← htext, (hnamed (by decide)).2]
  decide +kernel

/-- New Zealand, twelve hours east of UTC, under its short name. -/
def newZealand : Catalogue := [⟨"NZ", "NZ", .table (.standard 43200) [] 43200⟩]

/-- The short name of New Zealand stands for a zone, and cannot be written after a timestamp. -/
theorem not_readTimestamp_zoneName :
    Zone.ofName newZealand.source "NZ" = .ok (.named "NZ") ∧
    ZoneDesignator.splitOff "12:00:00 NZ".toList = ("12:00:00 N".toList, some .utc) ∧
    (readTimestamp .standard true "2020-07-01 12:00:00 NZ".toList
        (.new ⟨newZealand.source, .utc⟩)).1 =
      .error (.malformed "12:00:00 N".toList) := by
  decide +kernel

end Session

end CivilTime
