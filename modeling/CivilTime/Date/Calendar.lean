import CivilTime.Date.Basic
import CivilTime.Error

/-!
# The calendar

Until Thursday 1582-10-04 dates are Julian, from Friday 1582-10-15 on they are Gregorian, and the
ten days between have no date. Both calendars are continued without end, with a year zero and
negative years before it.
-/

set_option autoImplicit false

namespace CivilTime

/-- The year of the change of calendar. -/
def cutoverYear : Int := 1582

/-- Every fourth year has a leap day; after the change of calendar only one in four of the years
that end a century has one. -/
def IsLeapYear (year : Int) : Prop :=
  year % 4 = 0 ∧ (year ≤ cutoverYear ∨ year % 100 ≠ 0 ∨ year % 400 = 0)

instance (year : Int) : Decidable (IsLeapYear year) :=
  inferInstanceAs (Decidable (_ ∧ _))

/-- The number of the last day of a month. October 1582 ends with the 31st. -/
def daysInMonth (year month : Int) : Int :=
  if month = 2 then
    if IsLeapYear year then 29 else 28
  else if month = 4 ∨ month = 6 ∨ month = 9 ∨ month = 11 then 30
  else 31

/-- The ten days that the change of calendar left out. -/
def InCutoverGap (year month day : Int) : Prop :=
  year = cutoverYear ∧ month = 10 ∧ 5 ≤ day ∧ day ≤ 14

instance (year month day : Int) : Decidable (InCutoverGap year month day) :=
  inferInstanceAs (Decidable (_ ∧ _ ∧ _ ∧ _))

/-- The three numbers name a day of the calendar. -/
def IsCalendarDate (year month day : Int) : Prop :=
  (1 ≤ month ∧ month ≤ 12) ∧ (1 ≤ day ∧ day ≤ daysInMonth year month) ∧
    ¬ InCutoverGap year month day

instance (year month day : Int) : Decidable (IsCalendarDate year month day) :=
  inferInstanceAs (Decidable (_ ∧ _ ∧ ¬ _))

/-- A month has between 28 and 31 days, also where its number is no month. -/
theorem daysInMonth_bounds (year month : Int) :
    28 ≤ daysInMonth year month ∧ daysInMonth year month ≤ 31 := by
  unfold daysInMonth
  split
  · split <;> omega
  · split <;> omega

namespace Date

/-- The packed fields name a day of the calendar. -/
def IsValid (d : Date) : Prop := IsCalendarDate d.year d.month d.day

instance (d : Date) : Decidable d.IsValid :=
  inferInstanceAs (Decidable (IsCalendarDate _ _ _))

/-- The date of the fields, if they name a day of the calendar. -/
def ofFields (year month day : Int) : Except Error Date :=
  if IsCalendarDate year month day then .ok (pack year month day)
  else .error (.invalidDate year month day)

/-- Fields are refused exactly if they name no day. -/
theorem ofFields_eq_ok_iff {year month day : Int} {d : Date} :
    ofFields year month day = .ok d ↔ IsCalendarDate year month day ∧ d = pack year month day := by
  unfold ofFields
  split
  · next h => simp [h, eq_comm]
  · next h => simp [h]

/-- What a user may write is stored as written. -/
theorem fields_pack_of_isCalendarDate {year month day : Int} (hy : FitsInt32 year)
    (h : IsCalendarDate year month day) :
    (pack year month day).year = year ∧ (pack year month day).month = month ∧
      (pack year month day).day = day := by
  have hdim := daysInMonth_bounds year month
  obtain ⟨hm, hd, -⟩ := h
  have hm' : 0 ≤ month ∧ month < 16 := by omega
  have hd' : 0 ≤ day ∧ day < 32 := by omega
  exact ⟨year_pack hy hm' hd', month_pack hm' hd', day_pack hm' hd'⟩

end Date

end CivilTime
