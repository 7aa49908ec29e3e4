import CivilTime.Clock.Basic
import CivilTime.Error
import CivilTime.Text.Decimal
import CivilTime.Text.Cut

/-!
# Reading times

The form is `[-]H:M:S[.fraction]`, or the same with dots in place of the two colons where the
text has not two of them. A time of day lies within one day and has no minus sign; an interval is
shorter than two million hours.
-/

set_option autoImplicit false

namespace CivilTime.Clock

open CivilTime.Text

/-- What a text is read as. -/
inductive Mode where
  | timeOfDay
  | interval
deriving DecidableEq, Repr

/-- The texts before, between and after the first two separators, the first of which is not empty.
-/
def splitAtSeparator (sep : Char) (text : List Char) :
    Option (List Char × List Char × List Char) :=
  match cut sep text with
  | none => none
  | some (hour, rest) =>
    if hour = [] then none
    else
      match cut sep rest with
      | none => none
      | some (minute, second) => some (hour, minute, second)

/-- The nanoseconds of the digits after the point: the first nine, as if zeros followed. -/
def readFraction? (text : List Char) : Option Int :=
  if text.all Char.isDigit then
    some (Nat.ofDigitChars 10 ((text ++ List.replicate 9 '0').take 9) 0 : Nat)
  else none

/-- The seconds and the nanoseconds of a text with at most one point that counts. -/
def readSeconds? (text : List Char) : Option (Int × Int) :=
  match cut '.' text with
  | none => (readInt32? text).map fun second => (second, 0)
  | some (second, fraction) =>
    match readInt32? second, readFraction? fraction with
    | some second, some fraction => some (second, fraction)
    | _, _ => none

/-- Intervals are shorter than this many hours. -/
def maxIntervalHours : Int := 2000000

/-- The nanoseconds of the parts of a time, which has a minus sign in front if `signed`. The sign
of the hour is that of the time, and a zero hour has the sign of the text. -/
def ofParts? (mode : Mode) (signed : Bool) (hour minute second fraction : Int) : Option Int :=
  let negative := hour < 0 ∨ (hour = 0 ∧ signed = true)
  let size := if negative then -hour else hour
  if negative ∧ mode = .timeOfDay then none
  else if maxIntervalHours ≤ size ∨ ¬ (0 ≤ minute ∧ minute < 60) ∨ ¬ (0 ≤ second ∧ second < 60) then
    none
  else if mode = .timeOfDay ∧ 24 ≤ size then none
  else
    let nanos := fraction + Fields.nanos ⟨size, minute, second, 0⟩
    some (if negative then -nanos else nanos)

/-- The nanoseconds of a text. -/
def read? (mode : Mode) (text : List Char) : Option Int :=
  match (splitAtSeparator ':' text).or (splitAtSeparator '.' text) with
  | none => none
  | some (hourText, minuteText, secondText) =>
    match readInt32? hourText, readInt32? minuteText, readSeconds? secondText with
    | some hour, some minute, some (second, fraction) =>
      ofParts? mode (text.head? == some '-') hour minute second fraction
    | _, _, _ => none

/-- The nanoseconds of a text; a text of another form is the message of the error. -/
def read (mode : Mode) (text : List Char) : Except Error Int :=
  match read? mode text with
  | some nanos => .ok nanos
  | none => .error (.malformed text)

end CivilTime.Clock
