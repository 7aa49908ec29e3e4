import CivilTime.Zone.Basic

/-!
# The default zone

The zone of local times that name none, with its standard offset as measured at one instant. The
host tells which zone that is and what time it is when the offset is measured.
-/

set_option autoImplicit false

namespace CivilTime

/-- A zone and its standard offset, in seconds, at the instant of measurement. -/
structure DefaultZone where
  zone : Zone
  standardOffset : Int
deriving DecidableEq, Repr

/-- What the host tells: its zone, and its clock in milliseconds. -/
structure Host where
  zone : Zone
  epochMillis : Int
deriving DecidableEq, Repr

/-- A host in UTC whose clock stands still at the epoch. -/
def Host.atEpoch : Host := ⟨.utc, 0⟩

namespace DefaultZone

/-- UTC. -/
def utc : DefaultZone := ⟨.utc, 0⟩

/-- A zone with its standard offset at an instant in milliseconds. -/
def measure (source : ZoneSource) (zone : Zone) (instant : Int) : Except Error DefaultZone :=
  match zone.standardOffsetAt source (instant / 1000) with
  | .error e => .error e
  | .ok offset => .ok ⟨zone, offset⟩

/-- The zone of a host with its standard offset by the host's clock. -/
def ofHost (source : ZoneSource) (host : Host) : Except Error DefaultZone :=
  measure source host.zone host.epochMillis

/-- The standard offset in milliseconds. -/
def standardOffsetMillis (zone : DefaultZone) : Int := zone.standardOffset * 1000

end DefaultZone

end CivilTime
