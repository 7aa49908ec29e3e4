import CivilTime.Error

/-!
# Local time records

What a zone observes at an instant: how far its clocks are ahead of UTC, and whether this is
daylight saving time. A wall clock time is shown at one instant as a rule; where clocks are set
forward some are shown at none, and where they are set back some are shown at two.
-/

set_option autoImplicit false

namespace CivilTime

/-- What clocks show in a zone. -/
structure LocalRecord where
  /-- Seconds east of UTC. -/
  offset : Int
  /-- Daylight saving time is observed. -/
  isDst : Bool
deriving DecidableEq, Repr

namespace LocalRecord

/-- Standard time with an offset in seconds. -/
def standard (offset : Int) : LocalRecord := ⟨offset, false⟩

/-- Daylight saving time with an offset in seconds. -/
def daylight (offset : Int) : LocalRecord := ⟨offset, true⟩

/-- What clocks show in UTC. -/
def utc : LocalRecord := standard 0

end LocalRecord

/-- The records under which a wall clock time may have been shown. -/
inductive CandidateOffsets where
  /-- Clocks were set forward past this time. -/
  | gap (before after : LocalRecord)
  /-- The time was shown once. -/
  | one (record : LocalRecord)
  /-- Clocks were set back to before this time. The record of the earlier instant comes first. -/
  | two (first second : LocalRecord)
deriving DecidableEq, Repr

/-- How far on each side of a wall clock time a change of offset is looked for. -/
def transitionSearchSeconds : Int := 86400

/-- The records a wall clock time of so many seconds after 1970-01-01 may have been shown under,
where `offsetAt` tells the record of an instant. The two records in effect a day before and a day
after are tried: a record is a candidate if the instant it leads to observes its offset. This
supposes that changes of the record are two days apart. For a time whose milliseconds have 64 bits
none of the sums comes close to the ends of 64 bits. -/
def candidateOffsets (offsetAt : Int → Except Error LocalRecord) (wall : Int) :
    Except Error CandidateOffsets :=
  match offsetAt (wall - transitionSearchSeconds) with
  | .error e => .error e
  | .ok before =>
    match offsetAt (wall + transitionSearchSeconds) with
    | .error e => .error e
    | .ok after =>
      match offsetAt (wall - before.offset) with
      | .error e => .error e
      | .ok atBefore =>
        if atBefore.offset = before.offset ∧ after = before then .ok (.one before)
        else
          match offsetAt (wall - after.offset) with
          | .error e => .error e
          | .ok atAfter =>
            if atBefore.offset = before.offset then
              if atAfter.offset = after.offset then
                if after.offset ≤ before.offset then .ok (.two before after)
                else .ok (.two after before)
              else .ok (.one before)
            else if atAfter.offset = after.offset then .ok (.one after)
            else .ok (.gap before after)

end CivilTime
