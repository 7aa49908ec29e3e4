import CivilTime.Date.AbsoluteDay
import Mathlib.Tactic.IntervalCases

/-!
# Dates and the days of March years

A date of the calendar and its day in the year that starts in March determine each other. Which
days of a March year exist is said here in terms of the day itself: it has at most 366 days, the
last of them in a leap year only, and the change of calendar took ten of them from 1582.

Main statements: a day that exists is a date of the calendar (`isCalendarDate_civil`), a date is
a day that exists (`isProper_toMarchDay`), and going to the March year and back changes neither
(`toMarchDay_toDate`, `toDate_toMarchDay`).
-/

set_option autoImplicit false

namespace CivilTime

/-! ## The months of a March year -/

/-- The starts of the twelve months follow one line. -/
theorem daysBeforeMarchMonth_eq {k : Int} (h : 0 ≤ k ∧ k < 12) :
    daysBeforeMarchMonth k = (153 * k + 2) / 5 := by
  obtain ⟨n, rfl⟩ := Int.eq_ofNat_of_zero_le h.1
  have hn : n < 12 := by omega
  interval_cases n <;> rfl

/-- The start of the month after, where the year ends a day before the line says. -/
theorem daysBeforeMarchMonth_succ {k : Int} (h : 0 ≤ k ∧ k < 12) :
    daysBeforeMarchMonth (k + 1) = if k = 11 then 366 else (153 * (k + 1) + 2) / 5 := by
  split
  · next hlast =>
    rw [hlast]
    rfl
  · next hlast => rw [daysBeforeMarchMonth_eq (by omega)]

/-- Every month but February ends where the next one starts, whatever the year. -/
theorem daysInMonth_civilMonthOfMarch (year : Int) {k : Int} (h : 0 ≤ k ∧ k < 11) :
    daysInMonth year (civilMonthOfMarch k) =
      daysBeforeMarchMonth (k + 1) - daysBeforeMarchMonth k := by
  obtain ⟨hlow, hhigh⟩ := h
  interval_cases k <;> rfl

/-- February, which ends the year, has 29 days in a leap year and 28 otherwise. -/
theorem daysInMonth_february (year : Int) :
    daysInMonth year 2 = if IsLeapYear year then 29 else 28 := if_pos rfl

/-- No month has more days than lie between its beginning and that of the next month. -/
theorem daysInMonth_le (year : Int) {k : Int} (h : 0 ≤ k ∧ k < 12) :
    daysInMonth year (civilMonthOfMarch k) ≤
      daysBeforeMarchMonth (k + 1) - daysBeforeMarchMonth k := by
  by_cases hlast : k = 11
  · have hfeb : daysInMonth year 2 ≤ 29 := by
      rw [daysInMonth_february]
      split <;> omega
    rw [hlast]
    exact hfeb
  · rw [daysInMonth_civilMonthOfMarch year (by omega)]

namespace MarchDay

/-- A day lies in the month whose days it is among. -/
theorem month_eq {p : MarchDay} {k : Int} (hk : 0 ≤ k ∧ k < 12)
    (h : daysBeforeMarchMonth k ≤ p.day) (h' : p.day < daysBeforeMarchMonth (k + 1)) :
    p.month = k := by
  rw [daysBeforeMarchMonth_eq hk] at h
  rw [daysBeforeMarchMonth_succ hk] at h'
  unfold month
  split at h' <;> omega

/-- The day of a year lies in one of its twelve months. -/
theorem month_bounds {p : MarchDay} (h : 0 ≤ p.day ∧ p.day ≤ 365) :
    0 ≤ p.month ∧ p.month < 12 := by
  unfold month
  omega

/-- A day lies among the days of its month. -/
theorem day_mem_month {p : MarchDay} (h : 0 ≤ p.day ∧ p.day ≤ 365) :
    daysBeforeMarchMonth p.month ≤ p.day ∧ p.day < daysBeforeMarchMonth (p.month + 1) := by
  have hk := month_bounds h
  rw [daysBeforeMarchMonth_eq hk, daysBeforeMarchMonth_succ hk]
  unfold month
  constructor
  · omega
  · split <;> omega

/-! ## The days that exist -/

/-- The day exists: the leap day only at the end of a March year before a leap year, and the ten
days from 1582-10-05 on not at all. -/
structure IsProper (p : MarchDay) : Prop where
  day_range : 0 ≤ p.day ∧ p.day ≤ 365
  leap : p.day = 365 → IsLeapYear (p.year + 1)
  not_gap : ¬ (p.year = cutoverYear ∧ 218 ≤ p.day ∧ p.day ≤ 227)

/-- The day of a month is at most the last of that month. -/
theorem dayOfMonth_le {p : MarchDay} (h : p.IsProper) :
    p.dayOfMonth ≤ daysInMonth p.civilYear p.civilMonth := by
  have hk := month_bounds h.day_range
  have hday := day_mem_month h.day_range
  unfold dayOfMonth civilMonth
  by_cases hlast : p.month = 11
  · have hyear : p.civilYear = p.year + 1 := if_pos (by omega)
    have hend : p.day < 366 := by
      rw [hlast] at hday
      exact hday.2
    have hstart : daysBeforeMarchMonth 11 = 337 := rfl
    rw [hlast, hyear, hstart, show civilMonthOfMarch 11 = 2 from rfl, daysInMonth_february]
    split
    · omega
    · next hleap =>
      have hnot : p.day ≠ 365 := fun heq => hleap (h.leap heq)
      omega
  · rw [daysInMonth_civilMonthOfMarch _ (by omega)]
    omega

/-- A day that exists is a date of the calendar. -/
theorem isCalendarDate_civil {p : MarchDay} (h : p.IsProper) :
    IsCalendarDate p.civilYear p.civilMonth p.dayOfMonth := by
  have hk := month_bounds h.day_range
  have hday := day_mem_month h.day_range
  refine ⟨?_, ⟨?_, dayOfMonth_le h⟩, ?_⟩
  · unfold civilMonth civilMonthOfMarch
    split <;> omega
  · unfold dayOfMonth
    omega
  · rintro ⟨hyear, hmonth, hgap⟩
    have hoctober : p.month = 7 := by
      unfold civilMonth civilMonthOfMarch at hmonth
      split at hmonth <;> omega
    have hstart : daysBeforeMarchMonth 7 = 214 := rfl
    rw [civilYear, hoctober, if_neg (by omega)] at hyear
    rw [dayOfMonth, hoctober, hstart] at hgap
    exact h.not_gap ⟨hyear, by omega, by omega⟩

end MarchDay

/-! ## From dates to days of March years and back -/

namespace Date

/-- The day of a date in the year that starts in March. -/
def toMarchDay (d : Date) : MarchDay :=
  ⟨d.marchYear, daysBeforeMarchMonth d.marchMonth + d.day - 1⟩

/-- The table of months has an entry for whatever the packed month is. -/
theorem marchMonth_bounds (d : Date) : 0 ≤ d.marchMonth ∧ d.marchMonth < marchMonthStarts.length := by
  have hmonth := d.month_range
  change 0 ≤ d.marchMonth ∧ d.marchMonth < 13
  unfold marchMonth
  split <;> omega

/-- A month has one of twelve places in a year that begins in March. -/
theorem marchMonth_lt {d : Date} (h : 1 ≤ d.month ∧ d.month ≤ 12) : d.marchMonth < 12 := by
  unfold marchMonth
  split <;> omega

/-- From its place in a year that begins in March, the month is found again. -/
theorem civilMonthOfMarch_marchMonth {d : Date} (h : 1 ≤ d.month ∧ d.month ≤ 12) :
    civilMonthOfMarch d.marchMonth = d.month := by
  unfold civilMonthOfMarch marchMonth
  split_ifs <;> omega

/-- The day of a valid date lies among the days of its month. -/
theorem toMarchDay_mem_month {d : Date} (h : d.IsValid) :
    daysBeforeMarchMonth d.marchMonth ≤ d.toMarchDay.day ∧
      d.toMarchDay.day < daysBeforeMarchMonth (d.marchMonth + 1) := by
  obtain ⟨hmonth, hday, -⟩ := h
  have hlen := daysInMonth_le d.year ⟨(marchMonth_bounds d).1, marchMonth_lt hmonth⟩
  rw [civilMonthOfMarch_marchMonth hmonth] at hlen
  dsimp only [toMarchDay]
  omega

/-- The month of a valid date is found again from the day of its year. -/
theorem month_toMarchDay {d : Date} (h : d.IsValid) : d.toMarchDay.month = d.marchMonth := by
  obtain ⟨hlow, hhigh⟩ := toMarchDay_mem_month h
  exact MarchDay.month_eq ⟨(marchMonth_bounds d).1, marchMonth_lt h.1⟩ hlow hhigh

/-- The fields of a valid date are found again from the day of a year that begins in March. -/
theorem civil_toMarchDay {d : Date} (h : d.IsValid) :
    d.toMarchDay.civilYear = d.year ∧ d.toMarchDay.civilMonth = d.month ∧
      d.toMarchDay.dayOfMonth = d.day := by
  have hmonth := month_toMarchDay h
  refine ⟨?_, ?_, ?_⟩
  · rw [MarchDay.civilYear, hmonth]
    dsimp only [toMarchDay]
    have hlow := h.1.1
    have hhigh := h.1.2
    unfold marchYear marchMonth
    split_ifs <;> omega
  · rw [MarchDay.civilMonth, hmonth, civilMonthOfMarch_marchMonth h.1]
  · rw [MarchDay.dayOfMonth, hmonth]
    dsimp only [toMarchDay]
    omega

/-- A date of the calendar is a day that exists. -/
theorem isProper_toMarchDay {d : Date} (h : d.IsValid) : d.toMarchDay.IsProper := by
  have hk : 0 ≤ d.marchMonth ∧ d.marchMonth < 12 := ⟨(marchMonth_bounds d).1, marchMonth_lt h.1⟩
  obtain ⟨hlow, hhigh⟩ := toMarchDay_mem_month h
  have hcivil := civilMonthOfMarch_marchMonth h.1
  have hday := h.2.1
  rw [daysBeforeMarchMonth_eq hk] at hlow
  rw [daysBeforeMarchMonth_succ hk] at hhigh
  refine ⟨⟨by omega, by split at hhigh <;> omega⟩, ?_, ?_⟩
  · intro hlast
    have hfeb : d.marchMonth = 11 := by
      split at hhigh <;> omega
    have hmonth : d.month = 2 := by
      rw [← hcivil, hfeb]
      rfl
    have hyear : d.toMarchDay.year + 1 = d.year := by
      dsimp only [toMarchDay]
      rw [marchYear, if_pos (by omega)]
      omega
    have hfinal : d.day = 29 := by
      have hstart : daysBeforeMarchMonth 11 = 337 := rfl
      dsimp only [toMarchDay] at hlast
      rw [hfeb, hstart] at hlast
      omega
    rw [hyear]
    by_contra hleap
    rw [hmonth, daysInMonth_february, if_neg hleap] at hday
    omega
  · rintro ⟨hyear, hgap⟩
    have hoctober : d.marchMonth = 7 := by
      split at hhigh <;> omega
    have hmonth : d.month = 10 := by
      rw [← hcivil, hoctober]
      rfl
    have hstart : daysBeforeMarchMonth 7 = 214 := rfl
    dsimp only [toMarchDay] at hyear hgap
    rw [hoctober, hstart] at hgap
    rw [marchYear, if_neg (by omega)] at hyear
    exact h.2.2 ⟨hyear, hmonth, by omega, by omega⟩

/-- The date of the day of a valid date has the same fields. -/
theorem toDate_toMarchDay {d : Date} (h : d.IsValid) :
    d.toMarchDay.toDate = pack d.year d.month d.day := by
  obtain ⟨hyear, hmonth, hday⟩ := civil_toMarchDay h
  rw [MarchDay.toDate, hyear, hmonth, hday, wrapInt32_of_fits (fits_year d)]

end Date

namespace MarchDay

/-- The date of a day of the calendar holds the fields of that day. -/
theorem fields_toDate {p : MarchDay} (h : p.IsProper) (hyear : FitsInt32 p.civilYear) :
    p.toDate.year = p.civilYear ∧ p.toDate.month = p.civilMonth ∧
      p.toDate.day = p.dayOfMonth := by
  rw [toDate, wrapInt32_of_fits hyear]
  exact Date.fields_pack_of_isCalendarDate hyear (isCalendarDate_civil h)

/-- The date of a day of the calendar is valid, if its year fits. -/
theorem isValid_toDate {p : MarchDay} (h : p.IsProper) (hyear : FitsInt32 p.civilYear) :
    p.toDate.IsValid := by
  obtain ⟨hy, hm, hd⟩ := fields_toDate h hyear
  rw [Date.IsValid, hy, hm, hd]
  exact isCalendarDate_civil h

/-- From the date of a day of the calendar the day is found again. -/
theorem toMarchDay_toDate {p : MarchDay} (h : p.IsProper) (hyear : FitsInt32 p.civilYear) :
    p.toDate.toMarchDay = p := by
  obtain ⟨hy, hm, hd⟩ := fields_toDate h hyear
  have hk := month_bounds h.day_range
  have hmonth : p.toDate.marchMonth = p.month := by
    rw [Date.marchMonth, hm, civilMonth, civilMonthOfMarch]
    split_ifs <;> omega
  have hstart : p.toDate.marchYear = p.year := by
    rw [Date.marchYear, hy, hm, civilYear, civilMonth, civilMonthOfMarch]
    split_ifs <;> omega
  rw [Date.toMarchDay, hstart, hmonth, hd, dayOfMonth,
    show daysBeforeMarchMonth p.month + (p.day - daysBeforeMarchMonth p.month + 1) - 1 = p.day
      by omega]

end MarchDay

end CivilTime
