import CivilTime.Date.Calendar

/-!
# Adding months

The sum has the day of the month it started from, or the last day of the month it reaches. A sum
that would fall on a day without a date is the first Gregorian day.
-/

set_option autoImplicit false

namespace CivilTime.Date

/-- The first day of the Gregorian calendar. -/
def firstGregorian : Date := pack cutoverYear 10 15

/-- The date `months` months later, or earlier if negative. -/
def addMonths (d : Date) (months : Int) : Date :=
  let total := d.year * 12 + d.month - 1 + months
  let year := wrapInt32 (total / 12)
  let month := total % 12 + 1
  let sum := pack year month (min d.day (daysInMonth year month))
  if sum.IsValid then sum else firstGregorian

example : (pack 2007 4 30).addMonths (-2) = pack 2007 2 28 := by decide

example : (pack 1582 9 10).addMonths 1 = pack 1582 10 15 := by decide

end CivilTime.Date
