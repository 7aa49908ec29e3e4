import CivilTime.Zone.History
import CivilTime.Zone.Source

/-!
# Catalogues of zones

A catalogue is a list of zones, each with the name it is asked for by, the canonical name it
answers with, and its data: a history, or a plain table of changes with a single standard offset.
-/

set_option autoImplicit false

namespace CivilTime

/-- Two texts that differ in the case of ASCII letters at most. -/
def sameIgnoringCase (a b : String) : Bool :=
  a.toList.map Char.toLower == b.toList.map Char.toLower

/-- A change of the record of a zone at an instant, in seconds. -/
structure Transition where
  instant : Int
  record : LocalRecord
deriving DecidableEq, Repr

/-- What clocks show at an instant by a table of changes. The last entry that is not after the
instant counts, whatever the order of the table. -/
def tableRecordAt (initial : LocalRecord) (transitions : List Transition) (instant : Int) :
    LocalRecord :=
  match (transitions.filter fun transition => transition.instant ≤ instant).getLast? with
  | some transition => transition.record
  | none => initial

/-- What is known of a zone. -/
inductive ZoneData where
  /-- The record before the changes, the changes, and the standard offset of all times. -/
  | table (initial : LocalRecord) (transitions : List Transition) (standardOffset : Int)
  | compiled (history : ZoneHistory)
deriving DecidableEq, Repr

namespace ZoneData

/-- What clocks show at an instant. -/
def recordAt : ZoneData → Int → Except Error LocalRecord
  | .table initial transitions _, instant => .ok (tableRecordAt initial transitions instant)
  | .compiled history, instant => history.recordAt instant

/-- The offset of standard time at an instant. -/
def standardOffsetAt : ZoneData → Int → Except Error Int
  | .table _ _ standardOffset, _ => .ok standardOffset
  | .compiled history, instant => history.standardOffsetAt instant

end ZoneData

/-- A zone of a catalogue. -/
structure CatalogueEntry where
  name : String
  canonical : String
  data : ZoneData
deriving DecidableEq, Repr

/-- A list of zones, of which the first that fits a name is taken. -/
abbrev Catalogue := List CatalogueEntry

namespace Catalogue

/-- The data of the first zone with this name or canonical name. -/
def lookup (catalogue : Catalogue) (name : String) : Except Error ZoneData :=
  match catalogue.find? fun entry => entry.name == name || entry.canonical == name with
  | some entry => .ok entry.data
  | none => .error (.general s!"no such zone: {name}")

/-- The canonical name of the first zone that is asked for by this name, in any case. -/
def canonicalName (catalogue : Catalogue) (name : String) : Except Error String :=
  match catalogue.find? fun entry => sameIgnoringCase entry.name name with
  | some entry => .ok entry.canonical
  | none => .error ⟨.timeZone, ""⟩

/-- The catalogue as a source of zone data. -/
def source (catalogue : Catalogue) : ZoneSource :=
  .ofLookups catalogue.canonicalName
    (fun name instant => (catalogue.lookup name).bind fun data => data.recordAt instant)
    fun name instant => (catalogue.lookup name).bind fun data => data.standardOffsetAt instant

/-- A catalogue searches. -/
theorem searches (catalogue : Catalogue) (name : String) : catalogue.source.Searches name :=
  ZoneSource.searches_ofLookups _ _ _ name

end Catalogue

end CivilTime
