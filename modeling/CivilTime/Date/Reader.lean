import CivilTime.Date.Calendar
import CivilTime.Text.Decimal
import CivilTime.Text.Cut

/-!
# Reading dates

The form is `[+|-]YYYY-MM-DD` with fields of any number of digits. The year may carry a sign, so
the dashes between the fields are the first two after the first character that is not a plus.
-/

set_option autoImplicit false

namespace CivilTime.Date

open CivilTime.Text

/-- The texts of year, month and day. -/
def splitFields : List Char → Option (List Char × List Char × List Char)
  | [] => none
  | c :: text =>
    match cut '-' text with
    | none => none
    | some (year, rest) =>
      match cut '-' rest with
      | none => none
      | some (month, day) => some (c :: year, month, day)

/-- The year, the month and the day of a text, each a number of 32 bits. -/
def readFields? (text : List Char) : Option (Int × Int × Int) :=
  match splitFields (if text.head? = some '+' then text.tail else text) with
  | none => none
  | some (yearText, monthText, dayText) =>
    match readInt32? yearText, readInt32? monthText, readInt32? dayText with
    | some year, some month, some day => some (year, month, day)
    | _, _, _ => none

/-- The date of a text. -/
def read (text : List Char) : Except Error Date :=
  match readFields? text with
  | none => .error (.malformed text)
  | some (year, month, day) => ofFields year month day

end CivilTime.Date
