import CivilTime.Text.Cut
import CivilTime.Text.Hex
import CivilTime.Zone.BundleData
import CivilTime.Zone.Catalogue
import CivilTime.Zone.FileReader

/-!
# The bundled zones

A source of zone data that comes with the library. Names are recognised in any case, and the
canonical name is the spelling of the bundle. Names of the bundle are relative paths of zone
files, so a name that would lead out of their directory is refused as such.
-/

set_option autoImplicit false

namespace CivilTime.Bundle

/-- The zones of the bundle with what their compiled data holds. -/
def zones : List (String × Except Error ZoneHistory) :=
  files.map fun (name, lines) =>
    (name,
      match Text.hexBytes? (lines.flatMap String.toList) with
      | some data => FileReader.read data
      | none => .error .illformedZoneFile)

/-- The zone of this name in any case. -/
def find? (name : String) : Option (String × Except Error ZoneHistory) :=
  zones.find? fun zone => sameIgnoringCase zone.1 name

/-- A name that stays inside the directory of zone files: a relative path without a step up. -/
def IsContained (name : String) : Prop :=
  name.toList.head? ≠ some '/' ∧ ['.', '.'] ∉ Text.parts '/' name.toList

instance (name : String) : Decidable (IsContained name) :=
  inferInstanceAs (Decidable (_ ∧ _))

/-- A name without data in the bundle: it is no zone identifier, or an unknown one. -/
def missing (name : String) : Error :=
  if IsContained name then .unknownZone name else .notAZoneIdentifier name

/-- The history of a zone of the bundle. -/
def history (name : String) : Except Error ZoneHistory :=
  match find? name with
  | some zone => zone.2
  | none => .error (missing name)

/-- The spelling that the bundle has of a name. -/
def canonicalName (name : String) : Except Error String :=
  match find? name with
  | some zone => .ok zone.1
  | none => .error (.unknownZone name)

/-- The bundle as a source of zone data. -/
def source : ZoneSource :=
  .ofLookups canonicalName
    (fun name instant => (history name).bind fun history => history.recordAt instant)
    fun name instant => (history name).bind fun history => history.standardOffsetAt instant

end CivilTime.Bundle
