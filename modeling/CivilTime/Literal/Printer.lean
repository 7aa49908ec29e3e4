import CivilTime.Clock.Printer
import CivilTime.Date.Printer
import CivilTime.Literal.Basic
import CivilTime.Zone.Offset

/-!
# Literals as text

A timestamp is written as `YYYY-MM-DD HH:MM:SS[.fraction][±HH[:MM]]`. One with an offset always
has a fraction.
-/

set_option autoImplicit false

namespace CivilTime

open CivilTime.Text

/-- The text of a timestamp and of its offset in minutes, if it has one. -/
def writeTimestamp (date : Date) (nanos : Int) (alwaysFraction : Bool)
    (offsetMinutes : Option Int) : List Char :=
  date.write ++ ' ' :: Clock.write nanos alwaysFraction ++
    match offsetMinutes with
    | some minutes => writeOffsetMinutes minutes
    | none => []

/-- The hints of the parts, and one for the space. -/
def timestampLengthHint (date : Date) (nanos : Int) (alwaysFraction : Bool)
    (offsetMinutes : Option Int) : LengthHint :=
  date.lengthHint + .exact 1 + Clock.lengthHint nanos alwaysFraction +
    match offsetMinutes with
    | some minutes => offsetMinutesLengthHint minutes
    | none => .exact 0

namespace Literal

/-- The canonical text of a literal. -/
def write : Literal → List Char
  | .date d => d.write
  | .time nanos => Clock.write nanos false
  | .timestamp d nanos => writeTimestamp d nanos false none
  | .timestampWithOffset d nanos offsetMinutes =>
    writeTimestamp d nanos true (some offsetMinutes)

end Literal

end CivilTime
