import CivilTime.Date.Calendar

/-!
# Day numbers

The absolute day of a date is the signed number of days from 1970-01-01 to it. Both directions
count from the first of March, so that a leap day is the last day of its year, and the months
from March on follow the rhythm 31, 30, 31, 30, 31 of five months.
-/

set_option autoImplicit false

namespace CivilTime

/-- The days of a year that starts with March before each of its months. The thirteenth value
closes a leap year. -/
def marchMonthStarts : List Int :=
  [0, 31, 61, 92, 122, 153, 184, 214, 245, 275, 306, 337, 366]

/-- The days of a year that starts with March before its month `k`, where March is `0`. -/
def daysBeforeMarchMonth (k : Int) : Int := marchMonthStarts.getD k.toNat 0

/-- The month, counted from January as `1`, that is the month `k` counted from March as `0`. -/
def civilMonthOfMarch (k : Int) : Int := if 10 ≤ k then k - 9 else k + 3

namespace Date

/-- The year that starts in March and holds the date. January and February belong to the year
before. -/
def marchYear (d : Date) : Int := if d.month ≤ 2 then d.year - 1 else d.year

/-- The month of the date, counted from March as `0`. -/
def marchMonth (d : Date) : Int := if d.month ≤ 2 then d.month + 9 else d.month - 3

/-- The date is one of the last Julian day or before. Months are numbered on past December here,
so `1004` is the fourth of October. -/
def IsJulian (d : Date) : Prop :=
  d.marchYear < cutoverYear ∨ (d.marchYear = cutoverYear ∧ (d.marchMonth + 3) * 100 + d.day < 1005)

instance (d : Date) : Decidable d.IsJulian := inferInstanceAs (Decidable (_ ∨ _ ∧ _))

/-- The number of days from 1970-01-01 to the date. The Julian count of the days in whole years is
corrected for the thirteen days of the epoch and, outside the years in which that is nothing, for
the centuries without a leap day. -/
def absoluteDay (d : Date) : Int :=
  let y := d.marchYear
  let julian := y * 2922 / 8 + daysBeforeMarchMonth d.marchMonth + d.day - 719484
  if d.IsJulian then julian + 13
  else if 1901 ≤ y ∧ y ≤ 2099 then julian
  else julian + (y / 400 - y / 100 + 15)

/-- Day numbers are limited to this many days before and after 1970-01-01, which is about 800
million years. -/
def maxAbsoluteDay : Int := 292200000000

/-- The closest day number within the limits. -/
def clampAbsoluteDay (n : Int) : Int := max (-maxAbsoluteDay) (min maxAbsoluteDay n)

end Date

/-- A day by the year that starts in March and holds it, and by its number in that year, counted
from zero. -/
structure MarchDay where
  year : Int
  day : Int
deriving DecidableEq, Repr

namespace MarchDay

/-- The month, counted from March as `0`. -/
def month (p : MarchDay) : Int := (p.day * 2 + 1) * 5 / 306

/-- The year that starts in January and holds the day. -/
def civilYear (p : MarchDay) : Int := if 10 ≤ p.month then p.year + 1 else p.year

/-- The month, counted from January as `1`. -/
def civilMonth (p : MarchDay) : Int := civilMonthOfMarch p.month

/-- The day of the month, counted from one. -/
def dayOfMonth (p : MarchDay) : Int := p.day - daysBeforeMarchMonth p.month + 1

/-- The date of the day, with the year stored as a 32-bit number. -/
def toDate (p : MarchDay) : Date := .pack (wrapInt32 p.civilYear) p.civilMonth p.dayOfMonth

/-- The day `n`, counted from zero, of a run of four-year blocks that starts in March of `year`.
The leap day that closes a block, or closes the century if `closesCentury`, falls on the day after
its year and belongs to it. -/
def ofBlockDay (year : Int) (closesCentury : Bool) (n : Int) : MarchDay :=
  let inBlock := n % 1461
  let y := inBlock / 365
  let r := inBlock % 365
  let first := year + n / 1461 * 4 + y
  if r = 0 ∧ (y = 4 ∨ closesCentury = true) then ⟨first - 1, 365⟩ else ⟨first, r⟩

/-- The day of a day number, or of the closest one within the limits. After the last Julian day
the count is taken apart into 400 years, centuries and blocks of four years; up to it into blocks
alone, from a March 800 million years back. -/
def ofAbsoluteDay (n : Int) : MarchDay :=
  let march := Date.clampAbsoluteDay n + 719468
  if 578040 < march then
    let inCycle := march % 146097
    let century := inCycle / 36524
    ofBlockDay (march / 146097 * 400 + century * 100) (century == 4) (inCycle % 36524)
  else ofBlockDay (-800000000) false (march + 292200000002)

end MarchDay

namespace Date

/-- The date of a day number, or of the closest one within the limits. -/
def ofAbsoluteDay (n : Int) : Date := (MarchDay.ofAbsoluteDay n).toDate

example : (pack 1582 10 4).absoluteDay = -141428 := by decide

example : (pack 1582 10 15).absoluteDay = -141427 := by decide

example : ofAbsoluteDay 11016 = pack 2000 2 29 := by decide

end Date

end CivilTime
