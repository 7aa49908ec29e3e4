import CivilTime.Date.Basic
import CivilTime.Text.Decimal
import CivilTime.Text.LengthHint

/-!
# Dates as text

A date is written as year, month and day with dashes between. Month and day have two digits at
least, and so has the year four if it is one of `1` to `9999`; any other year is written as it
is.
-/

set_option autoImplicit false

namespace CivilTime.Date

open CivilTime.Text

/-- The years that are filled up to four digits. -/
def HasFourDigits (year : Int) : Prop := 0 < year ∧ year < 10000

instance (year : Int) : Decidable (HasFourDigits year) :=
  inferInstanceAs (Decidable (_ ∧ _))

/-- The text of a year. -/
def writeYear (year : Int) : List Char :=
  if HasFourDigits year then padded 4 year.toNat else writeInt year

/-- The canonical text of a date. -/
def write (d : Date) : List Char :=
  writeYear d.year ++ '-' :: padded 2 d.month.toNat ++ '-' :: padded 2 d.day.toNat

/-- The length of the text is known: that of the year, and six more. -/
def lengthHint (d : Date) : LengthHint :=
  (if HasFourDigits d.year then .exact 4 else .exact (writeInt d.year).length) + .exact 6

example : (pack 33 12 25).write = "0033-12-25".toList := by decide

example : (pack (-44) 3 15).write = "-44-03-15".toList := by decide

end CivilTime.Date
