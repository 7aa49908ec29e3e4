import CivilTime.Clock.Basic
import CivilTime.Text.Decimal
import CivilTime.Text.LengthHint

/-!
# Times as text

A time is written as `[-]HH:MM:SS[.fraction]`. The fraction has up to nine digits, without zeros
at its end but with one digit at least; a time of whole seconds has one only on request.
-/

set_option autoImplicit false

namespace CivilTime.Clock

open CivilTime.Text

/-- The nine digits of a fraction of a second without the zeros at the end, or a single zero. -/
def writeFraction (nanos : Nat) : List Char :=
  match trimZeros (padded 9 nanos) with
  | [] => ['0']
  | digits => digits

/-- A fraction is written on request or if there is one. -/
def HasFraction (nanos : Int) (always : Bool) : Prop :=
  always = true ∨ nanos % nanosPerSecond ≠ 0

instance (nanos : Int) (always : Bool) : Decidable (HasFraction nanos always) :=
  inferInstanceAs (Decidable (_ ∨ _))

/-- Hours, minutes and seconds of a number of seconds. The hours have two digits or more. -/
def writeSeconds (seconds : Nat) : List Char :=
  padded 2 (seconds / 3600) ++ ':' :: padded 2 (seconds / 60 % 60) ++ ':' :: padded 2 (seconds % 60)

/-- The canonical text of a time. -/
def write (nanos : Int) (alwaysFraction : Bool) : List Char :=
  let sign := if nanos < 0 then ['-'] else []
  let size := nanos.natAbs
  let fraction :=
    if HasFraction nanos alwaysFraction then '.' :: writeFraction (size % 1000000000) else []
  sign ++ writeSeconds (size / 1000000000) ++ fraction

/-- The sign and the fraction are accounted for; the hours have no longest text. -/
def lengthHint (nanos : Int) (alwaysFraction : Bool) : LengthHint :=
  let whole := LengthHint.atLeast (if nanos < 0 then 9 else 8)
  if HasFraction nanos alwaysFraction then whole + .between 2 10 else whole

example : write (-1500000) false = "-00:00:00.0015".toList := by decide

example : write 0 true = "00:00:00.0".toList := by decide

end CivilTime.Clock
