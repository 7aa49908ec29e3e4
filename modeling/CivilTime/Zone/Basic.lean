import CivilTime.Zone.Offset
import CivilTime.Zone.Source

/-!
# Zones

Local times are interpreted in UTC, at a fixed offset, or in a zone that a source of zone data
knows by name. A name or an offset that is written has to be the beginning of the canonical form
of what it stands for.
-/

set_option autoImplicit false

namespace CivilTime

/-- Where a local time is local. -/
inductive Zone where
  | utc
  | fixed (offset : UtcOffset)
  /-- A canonical name of a source. -/
  | named (name : String)
deriving DecidableEq, Repr

namespace Zone

/-- The zone of a name as written. -/
def ofName (source : ZoneSource) (name : String) : Except Error Zone :=
  match source.canonicalName name with
  | .error e => .error e
  | .ok canonical =>
    if name.toList.isPrefixOf canonical.toList then .ok (.named canonical)
    else .error (.unlikeCanonicalName name canonical)

/-- The zone of an offset as written, such as `+05` or `-03:30`. -/
def ofDesignator (designator : List Char) : Except Error Zone :=
  match UtcOffset.read? designator with
  | none => .error (.unresolvedOffset designator)
  | some offset =>
    if designator.isPrefixOf offset.write then .ok (.fixed offset)
    else .error (.unresolvedOffset designator)

/-- `UTC`, the canonical text of the offset, or the name. -/
def identifier : Zone → String
  | .utc => "UTC"
  | .fixed offset => String.ofList offset.write
  | .named name => name

/-- What clocks show at an instant, in seconds. -/
def offsetAt (source : ZoneSource) : Zone → Int → Except Error LocalRecord
  | .utc, _ => .ok .utc
  | .fixed offset, _ => .ok (.standard offset.seconds)
  | .named name, instant => source.offsetAt name instant

/-- The offset of standard time at an instant, both in seconds. -/
def standardOffsetAt (source : ZoneSource) : Zone → Int → Except Error Int
  | .utc, _ => .ok 0
  | .fixed offset, _ => .ok offset.seconds
  | .named name, instant => source.standardOffsetAt name instant

/-- The records a wall clock time, in seconds after 1970-01-01, may have been shown under. -/
def candidateOffsets (source : ZoneSource) : Zone → Int → Except Error CandidateOffsets
  | .utc, _ => .ok (.one .utc)
  | .fixed offset, _ => .ok (.one (.standard offset.seconds))
  | .named name, wall => source.candidateOffsets name wall

end Zone

end CivilTime
