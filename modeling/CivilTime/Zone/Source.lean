import CivilTime.Zone.Record

/-!
# Sources of zone data

Named zones are resolved by a source: it knows the canonical spelling of a name, what clocks show
in a zone at an instant, and under which records a wall clock time may have been shown. For the
last of these a source may have a way of its own; one that has none searches its records
(`ofLookups`).
-/

set_option autoImplicit false

namespace CivilTime

/-- A source of zone data. -/
structure ZoneSource where
  /-- The canonical spelling of a name. -/
  canonicalName : String → Except Error String
  /-- The record of a zone at an instant, in seconds. -/
  offsetAt : String → Int → Except Error LocalRecord
  /-- The offset of the standard time of a zone at an instant, both in seconds. -/
  standardOffsetAt : String → Int → Except Error Int
  /-- The records of a zone under which a wall clock time, in seconds after 1970-01-01, may have
  been shown. -/
  candidateOffsets : String → Int → Except Error CandidateOffsets

namespace ZoneSource

/-- A source without a way of its own to the candidates of a wall clock time: it searches the
records that it answers with. -/
def ofLookups (canonicalName : String → Except Error String)
    (offsetAt : String → Int → Except Error LocalRecord)
    (standardOffsetAt : String → Int → Except Error Int) : ZoneSource where
  canonicalName := canonicalName
  offsetAt := offsetAt
  standardOffsetAt := standardOffsetAt
  candidateOffsets name wall := CivilTime.candidateOffsets (offsetAt name) wall

/-- The candidates of a zone are those that the search through its records finds. -/
def Searches (source : ZoneSource) (name : String) : Prop :=
  ∀ wall, source.candidateOffsets name wall =
    CivilTime.candidateOffsets (source.offsetAt name) wall

/-- A source that is made of its lookups searches. -/
theorem searches_ofLookups (canonicalName : String → Except Error String)
    (offsetAt : String → Int → Except Error LocalRecord)
    (standardOffsetAt : String → Int → Except Error Int) (name : String) :
    (ofLookups canonicalName offsetAt standardOffsetAt).Searches name :=
  fun _ => rfl

/-- The source without any zone. -/
def empty : ZoneSource :=
  ofLookups (fun name => .error (.noZoneData name)) (fun name _ => .error (.noZoneData name))
    fun name _ => .error (.noZoneData name)

end ZoneSource

end CivilTime
