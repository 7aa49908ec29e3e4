import CivilTime.Proofs.Date.Year
import Mathlib.Tactic.IntervalCases

/-!
# The dates of a year by their months

Before the first of a month lie the days of the earlier months of its year
(`absoluteDay_eq_daysOfMonths`), less the ten days that the change of calendar left out, for the rest
of that year (`absoluteDay_eq_daysOfMonths_sub`). A leap year has one day more than a
common one in all its months from March on, and so a date of a common year is found in any other
year: up to the end of February at the same distance from New Year, and later on one day after that
in a leap year (`absoluteDay_eq_of_commonYear`).
-/

set_option autoImplicit false

namespace CivilTime.Date

/-! ## Days of a month -/

/-- In every year but 1582 the days of a month are those up to its last. -/
theorem isCalendarDate_of_ne_cutoverYear {year month day : Int} (hne : year ≠ cutoverYear)
    (hmonth : 1 ≤ month ∧ month ≤ 12) (hday : 1 ≤ day ∧ day ≤ daysInMonth year month) :
    IsCalendarDate year month day :=
  ⟨hmonth, hday, fun hgap => hne hgap.1⟩

/-- The days of a month follow its first one. -/
theorem absoluteDay_pack {year month day : Int} (hyear : FitsInt32 year) (hne : year ≠ cutoverYear)
    (hmonth : 1 ≤ month ∧ month ≤ 12) (hday : 1 ≤ day ∧ day ≤ daysInMonth year month) :
    (pack year month day).absoluteDay = (pack year month 1).absoluteDay + (day - 1) := by
  obtain ⟨hy, hm, hd⟩ := fields_pack_of_isCalendarDate hyear
    (isCalendarDate_of_ne_cutoverYear hne hmonth hday)
  obtain ⟨hy₁, hm₁, hd₁⟩ := fields_pack_of_isCalendarDate hyear (isCalendarDate_first year hmonth)
  have hcount := absoluteDay_sub_of_month (hy.trans hy₁.symm) (hm.trans hm₁.symm)
    fun hoctober => hne (hy.symm.trans hoctober.1)
  rw [hd, hd₁] at hcount
  omega

/-! ## Days before a month -/

/-- The days of the first `n` months of a year. -/
def daysOfMonths (year : Int) : Nat → Int
  | 0 => 0
  | n + 1 => daysOfMonths year n + daysInMonth year (n + 1)

/-- The first of a month comes as many days after New Year as the months before it have. -/
theorem absoluteDay_first {year : Int} (hyear : FitsInt32 year) (hne : year ≠ cutoverYear) {n : Nat}
    (h : n < 12) :
    (pack year (n + 1) 1).absoluteDay = newYearDay year + daysOfMonths year n := by
  induction n with
  | zero => exact (Int.add_zero _).symm
  | succ n ih =>
    have hstay : (year * 12 + ((n : Int) + 1)) / 12 = year := by omega
    have hnext := @absoluteDay_nextMonth year (n + 1) hyear (by omega) (by rwa [hstay])
      fun hoctober => hne hoctober.1
    rw [hstay, show (year * 12 + ((n : Int) + 1)) % 12 + 1 = (n + 1 : Nat) + 1 by omega,
      ih (by omega)] at hnext
    rw [hnext, daysOfMonths, Int.add_assoc]

/-- The number of a date counts the days before its year, those of the months before its own, and
those of its month. -/
theorem absoluteDay_eq_daysOfMonths {d : Date} (h : d.IsValid) (hne : d.year ≠ cutoverYear) {n : Nat}
    (hmonth : d.month = n + 1) :
    d.absoluteDay = newYearDay d.year + daysOfMonths d.year n + d.day - 1 := by
  have hrange := h.1
  obtain ⟨hy, hm, hd⟩ := fields_pack_of_isCalendarDate d.fits_year
    (isCalendarDate_first d.year (show 1 ≤ (n : Int) + 1 ∧ (n : Int) + 1 ≤ 12 by omega))
  have hcount := absoluteDay_sub_of_month hy.symm (hmonth.trans hm.symm)
    fun hoctober => hne hoctober.1
  rw [absoluteDay_first d.fits_year hne (by omega), hd] at hcount
  omega

/-! ## The year of the change of calendar -/

/-- From the fifth on, the days of October 1582 are counted in the other calendar. -/
theorem absoluteDay_october1582 {day : Int} (h : 1 ≤ day ∧ day ≤ 31) :
    (pack cutoverYear 10 day).absoluteDay = day - 141432 - if 5 ≤ day then 10 else 0 := by
  obtain ⟨hlow, hhigh⟩ := h
  interval_cases day <;> rfl

/-- The months of 1582 after October start ten days early. -/
theorem absoluteDay_first1582 {n : Nat} (h : n < 12) :
    (pack cutoverYear (n + 1) 1).absoluteDay =
      newYearDay cutoverYear + daysOfMonths cutoverYear n - if 9 < n then 10 else 0 := by
  interval_cases n <;> rfl

/-- The date is one of those of 1582 that follow the change of calendar. -/
def FollowsCutover (d : Date) : Prop :=
  d.year = cutoverYear ∧ (10 < d.month ∨ (d.month = 10 ∧ 15 ≤ d.day))

instance (d : Date) : Decidable d.FollowsCutover := inferInstanceAs (Decidable (_ ∧ _))

/-- The month of the change of calendar is counted over the days that were left out. -/
theorem absoluteDay_of_october1582 {d : Date} (h : d.IsValid) (hyear : d.year = cutoverYear)
    (hmonth : d.month = 10) :
    d.absoluteDay = newYearDay cutoverYear + daysOfMonths cutoverYear 9 + d.day - 1 -
      if d.FollowsCutover then 10 else 0 := by
  obtain ⟨-, hday, hgap⟩ := h
  rw [hyear, hmonth] at hday
  have hdays : 1 ≤ d.day ∧ d.day ≤ 31 := hday
  have hnotLeftOut : ¬ (5 ≤ d.day ∧ d.day ≤ 14) := fun hleft => hgap ⟨hyear, hmonth, hleft⟩
  have hfollows : d.FollowsCutover ↔ 5 ≤ d.day := by
    unfold FollowsCutover
    omega
  have hcount : d.absoluteDay = (pack cutoverYear 10 d.day).absoluteDay :=
    absoluteDay_congr (hyear.trans (year_pack (by decide) (by decide) (by omega)).symm)
      (hmonth.trans (month_pack (by decide) (by omega)).symm) (day_pack (by decide) (by omega)).symm
  have hstart : newYearDay cutoverYear + daysOfMonths cutoverYear 9 = -141431 := by decide
  rw [hcount, absoluteDay_october1582 hdays, hstart]
  simp only [hfollows]
  omega

/-- In every year the number of a date counts the days of the months before its own; after the
change of calendar the days that were left out are missing. -/
theorem absoluteDay_eq_daysOfMonths_sub {d : Date} (h : d.IsValid) {n : Nat}
    (hmonth : d.month = n + 1) :
    d.absoluteDay = newYearDay d.year + daysOfMonths d.year n + d.day - 1 -
      if d.FollowsCutover then 10 else 0 := by
  by_cases hyear : d.year = cutoverYear
  · by_cases hoctober : d.month = 10
    · obtain rfl : n = 9 := by omega
      rw [absoluteDay_of_october1582 h hyear hoctober, hyear]
    · have hrange := h.1
      have hfollows : d.FollowsCutover ↔ 9 < n := by
        unfold FollowsCutover
        omega
      obtain ⟨hy, hm, hd⟩ := fields_pack_of_isCalendarDate (show FitsInt32 cutoverYear by decide)
        (isCalendarDate_first cutoverYear (show 1 ≤ (n : Int) + 1 ∧ (n : Int) + 1 ≤ 12 by omega))
      have hcount := absoluteDay_sub_of_month (hyear.trans hy.symm) (hmonth.trans hm.symm)
        fun hboth => hoctober hboth.2
      rw [hd, absoluteDay_first1582 (by omega)] at hcount
      simp only [hfollows, hyear]
      omega
  · rw [absoluteDay_eq_daysOfMonths h hyear hmonth, if_neg fun hfollows => hyear hfollows.1]
    exact (Int.sub_zero _).symm

/-! ## Common years -/

/-- A year of 365 days whose dates have numbers within the limits of the conversion. -/
structure IsCommonYear (year : Int) : Prop where
  range : -799000000 ≤ year ∧ year ≤ 799000000
  length : newYearDay (year + 1) = newYearDay year + 365

/-- A common year and the year after it fit in 32 bits. -/
theorem IsCommonYear.fits {year : Int} (h : IsCommonYear year) :
    FitsInt32 year ∧ FitsInt32 (year + 1) := by
  have hrange := h.range
  exact ⟨fits_of_bounds (by omega), fits_of_bounds (by omega)⟩

/-- The days of a common year are dates of it. -/
theorem IsCommonYear.ofAbsoluteDay_spec {year : Int} (h : IsCommonYear year) {k : Int}
    (hk : 0 ≤ k ∧ k < 365) :
    (ofAbsoluteDay (newYearDay year + k)).IsValid ∧
      (ofAbsoluteDay (newYearDay year + k)).year = year ∧
      (ofAbsoluteDay (newYearDay year + k)).absoluteDay = newYearDay year + k := by
  have hrange := h.range
  have hlength := h.length
  have hnewYear := @newYearDay_bounds year (by omega)
  have hnumber : IsDayNumber (newYearDay year + k) := by
    unfold IsDayNumber maxAbsoluteDay
    omega
  obtain ⟨hvalid, hcount⟩ := absoluteDay_ofAbsoluteDay hnumber
  exact ⟨hvalid, (year_eq_iff hvalid h.fits.1 h.fits.2).2 (by omega), hcount⟩

/-- The year of the change of calendar is too short for a common year. -/
theorem IsCommonYear.ne_cutoverYear {year : Int} (h : IsCommonYear year) : year ≠ cutoverYear := by
  rintro rfl
  exact absurd h.length (by decide)

/-- A common year is no leap year. -/
theorem IsCommonYear.not_isLeapYear {year : Int} (h : IsCommonYear year) : ¬ IsLeapYear year := by
  have hlength := h.length
  rw [newYearDay_eq h.fits.1, newYearDay_eq h.fits.2, show year + 1 - 1 = year - 1 + 1 by omega,
    julianYearStart_succ, gregorianYearStart_succ] at hlength
  unfold IsLeapYear
  unfold gregorianYearStart julianYearStart cutoverYear at hlength
  unfold cutoverYear
  split_ifs at hlength <;> omega

section Common

variable {common : Int} (hcommon : ¬ IsLeapYear common)

include hcommon

/-- Months have the days of a common year, and February one more in a leap year. -/
theorem daysInMonth_eq_add (year : Int) (month : Int) :
    daysInMonth year month =
      daysInMonth common month + if IsLeapYear year ∧ month = 2 then 1 else 0 := by
  unfold daysInMonth
  rw [if_neg hcommon]
  by_cases hfebruary : month = 2
  · simp only [hfebruary, and_true, if_true]
    split <;> rfl
  · simp only [hfebruary, and_false, if_false, Int.add_zero]

/-- A leap year has one day more, once its February is over. -/
theorem daysOfMonths_eq_add (year : Int) (n : Nat) :
    daysOfMonths year n =
      daysOfMonths common n + if IsLeapYear year ∧ 2 ≤ n then 1 else 0 := by
  induction n with
  | zero => simp [daysOfMonths]
  | succ n ih =>
    rw [daysOfMonths, daysOfMonths, ih, daysInMonth_eq_add hcommon year]
    by_cases hleap : IsLeapYear year
    · simp only [hleap, true_and]
      split_ifs <;> omega
    · simp only [hleap, false_and, if_false]
      omega

/-- January and February of a common year have 59 days. -/
theorem daysOfMonths_two : daysOfMonths common 2 = 59 := by
  simp [daysOfMonths, daysInMonth, hcommon]

end Common

/-- More months have at least as many days. -/
theorem daysOfMonths_le (year : Int) {m n : Nat} (h : m ≤ n) :
    daysOfMonths year m ≤ daysOfMonths year n := by
  induction n, h using Nat.le_induction with
  | base => exact Int.le_refl _
  | succ n _ ih =>
    have hlen := daysInMonth_bounds year (n + 1)
    rw [daysOfMonths]
    omega

/-- The first two months of a common year have 59 days. -/
theorem two_le_iff_of_commonYear {d : Date} (h : d.IsValid) (hcommon : IsCommonYear d.year) {n : Nat}
    (hmonth : d.month = n + 1) : 2 ≤ n ↔ 59 ≤ d.absoluteDay - newYearDay d.year := by
  have hcount := absoluteDay_eq_daysOfMonths h hcommon.ne_cutoverYear hmonth
  have htwo := daysOfMonths_two hcommon.not_isLeapYear
  have hday := h.2.1
  constructor
  · intro hle
    have hmono := daysOfMonths_le d.year hle
    omega
  · intro hle
    by_contra hlt
    have hmono := daysOfMonths_le d.year (show n + 1 ≤ 2 by omega)
    rw [daysOfMonths, ← hmonth] at hmono
    omega

/-- The date with the month and the day of a date of a common year is one of any other year, and
comes as many days after New Year, or one day later if there is a leap day before it. -/
theorem absoluteDay_eq_of_commonYear {d : Date} (h : d.IsValid) (hcommon : IsCommonYear d.year)
    {year : Int} (hyear : FitsInt32 year) (hne : year ≠ cutoverYear) :
    IsCalendarDate year d.month d.day ∧
      (pack year d.month d.day).absoluteDay =
        newYearDay year + (d.absoluteDay - newYearDay d.year) +
          if IsLeapYear year ∧ 59 ≤ d.absoluteDay - newYearDay d.year then 1 else 0 := by
  have hrange := h.1
  have hday := h.2.1
  have hlen := daysInMonth_eq_add hcommon.not_isLeapYear year d.month
  have hdate : IsCalendarDate year d.month d.day :=
    isCalendarDate_of_ne_cutoverYear hne hrange (by split at hlen <;> omega)
  obtain ⟨n, hmonth⟩ : ∃ n : Nat, d.month = n + 1 := ⟨(d.month - 1).toNat, by omega⟩
  obtain ⟨hy, hm, hd⟩ := fields_pack_of_isCalendarDate hyear hdate
  have hcount := absoluteDay_eq_daysOfMonths h hcommon.ne_cutoverYear hmonth
  have hcount' := absoluteDay_eq_daysOfMonths (isWritable_pack hyear hdate).isValid (by rwa [hy])
    (hm.trans hmonth)
  have hmonths := daysOfMonths_eq_add hcommon.not_isLeapYear year n
  simp only [two_le_iff_of_commonYear h hcommon hmonth] at hmonths
  refine ⟨hdate, ?_⟩
  rw [hcount', hy, hd, hmonths]
  omega

/-- No common year has the 29th of February. -/
theorem IsCommonYear.not_leapDay {d : Date} (h : d.IsValid) (hcommon : IsCommonYear d.year) :
    ¬ (d.month = 2 ∧ d.day = 29) := by
  rintro ⟨hmonth, hday⟩
  have hrange := h.2.1
  rw [hmonth, daysInMonth_february, if_neg hcommon.not_isLeapYear] at hrange
  omega

end CivilTime.Date
