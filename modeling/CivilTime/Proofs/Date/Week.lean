import CivilTime.Proofs.Date.Weekday
import CivilTime.Proofs.Date.Year

/-!
# Weeks and the days that decide their years

The first week of a year is the first one with enough days of the year in it. So it is one day of a
week that decides in which year the week is numbered: the day from which on the week has just that
many days left. With four days it is the fourth day of the week, for weeks from Monday on the
Thursday. The year of a week is the year of that day, and the number of a week counts the same
weekdays of its year up to that day (`weekYear_weekOfYear_eq`).
-/

set_option autoImplicit false

namespace CivilTime

/-! ## The first week of a year -/

/-- The first week of a year starts on the first day of a week, and its deciding day is one of the
first seven days of the year. -/
theorem weekOneStart_spec (year : Int) (rules : WeekRules) :
    (weekOneStart year rules - rules.firstDay + 4) % 7 = 0 ∧
      Date.newYearDay year ≤ weekOneStart year rules + 7 - rules.minimalDays ∧
      weekOneStart year rules + 7 - rules.minimalDays < Date.newYearDay year + 7 := by
  have hfirst := rules.firstDay_range
  have hminimal := rules.minimalDays_range
  have hstart : weekOneStart year rules =
      if rules.minimalDays ≤ 8 - weekdayNumber (Date.newYearDay year) rules.firstDay then
        Date.newYearDay year + (8 - weekdayNumber (Date.newYearDay year) rules.firstDay) - 7
      else Date.newYearDay year + (8 - weekdayNumber (Date.newYearDay year) rules.firstDay) := rfl
  rw [weekdayNumber_eq _ hfirst] at hstart
  rw [hstart]
  split <;> omega

namespace Date

/-- The number of the day that decides the year of the week of a date. -/
def decidingDay (d : Date) (rules : WeekRules) : Int :=
  d.absoluteDay - d.weekday rules.firstDay + (8 - rules.minimalDays)

/-- The day of the week, counted from its first day, is told by the number of the day. -/
theorem weekday_eq (d : Date) (rules : WeekRules) :
    d.weekday rules.firstDay = (d.absoluteDay - rules.firstDay + 4) % 7 + 1 :=
  weekdayNumber_eq _ rules.firstDay_range

/-- The deciding day lies in the week of the date. -/
theorem decidingDay_bounds (d : Date) (rules : WeekRules) :
    d.absoluteDay - 6 ≤ d.decidingDay rules ∧ d.decidingDay rules ≤ d.absoluteDay + 6 := by
  have hminimal := rules.minimalDays_range
  have hweekday := weekday_eq d rules
  unfold decidingDay
  omega

/-- A date is in the first week of a year or later exactly if its deciding day is in the year or
later. -/
theorem weekOneStart_le_iff (d : Date) (rules : WeekRules) (year : Int) :
    weekOneStart year rules ≤ d.absoluteDay ↔ newYearDay year ≤ d.decidingDay rules := by
  have hminimal := rules.minimalDays_range
  obtain ⟨hstart, hlow, hhigh⟩ := weekOneStart_spec year rules
  rw [decidingDay, weekday_eq]
  omega

/-- As many weeks have passed since the first week of a year as sevens of days since New Year on the
deciding day. -/
theorem weeks_since_weekOneStart (d : Date) (rules : WeekRules) {year : Int}
    (h : newYearDay year ≤ d.decidingDay rules) :
    (d.absoluteDay - weekOneStart year rules).tdiv 7 =
      (d.decidingDay rules - newYearDay year) / 7 := by
  have hstarted := (weekOneStart_le_iff d rules year).2 h
  have hminimal := rules.minimalDays_range
  obtain ⟨hstart, hlow, hhigh⟩ := weekOneStart_spec year rules
  rw [Int.tdiv_eq_ediv_of_nonneg (by omega), decidingDay, weekday_eq]
  omega

/-! ## The year of a week -/

/-- What the position of a date says of its deciding day. No week of the next year is missed because
only the last days of December are looked at. -/
theorem weekPosition_spec {d : Date} (h : d.IsValid) (rules : WeekRules)
    (hnext : FitsInt32 (d.year + 1)) :
    match d.weekPosition rules with
    | .previousYear => d.decidingDay rules < newYearDay d.year
    | .sameYear =>
      newYearDay d.year ≤ d.decidingDay rules ∧ d.decidingDay rules < newYearDay (d.year + 1)
    | .nextYear => newYearDay (d.year + 1) ≤ d.decidingDay rules := by
  have hthis := weekOneStart_le_iff d rules d.year
  have hthen := weekOneStart_le_iff d rules (d.year + 1)
  have hminimal := rules.minimalDays_range
  have hweekday := weekday_eq d rules
  unfold weekPosition
  by_cases hprevious : d.absoluteDay < weekOneStart d.year rules
  · rw [if_pos hprevious]
    dsimp only
    omega
  · rw [if_neg hprevious]
    by_cases hlate : newYearDay (d.year + 1) ≤ d.decidingDay rules
    · have hdecember := december_of_near_newYear h hnext (by
        unfold decidingDay at hlate
        omega)
      have hguard : 24 + rules.minimalDays < d.day := by
        unfold decidingDay at hlate
        omega
      rw [if_pos ⟨hdecember.1, hguard, hthen.2 hlate⟩]
      exact hlate
    · rw [if_neg fun hguard => hlate (hthen.1 hguard.2.2)]
      dsimp only
      omega

/-- The years in which weeks are looked at. -/
def IsWeekYear (year : Int) : Prop := -799000000 ≤ year ∧ year ≤ 799000000

/-- The neighbours of such a year are years of 32 bits. -/
theorem IsWeekYear.fits {year : Int} (h : IsWeekYear year) (k : Int) (hk : -1 ≤ k ∧ k ≤ 2) :
    FitsInt32 (year + k) := by
  unfold IsWeekYear at h
  unfold FitsInt32
  omega

/-- The year of a week is that of its deciding day. -/
theorem decidingDay_mem_weekYear {d : Date} (h : d.IsValid) (rules : WeekRules)
    (hyear : IsWeekYear d.year) :
    newYearDay (d.weekYear rules) ≤ d.decidingDay rules ∧
      d.decidingDay rules < newYearDay (d.weekYear rules + 1) := by
  have hnext := hyear.fits 1 (by decide)
  have hposition := weekPosition_spec h rules hnext
  have hlow := newYearDay_le_absoluteDay h
  have hhigh := absoluteDay_lt_newYearDay h hnext (by omega)
  have hbounds := decidingDay_bounds d rules
  unfold weekYear
  cases hp : d.weekPosition rules with
  | previousYear =>
    rw [hp] at hposition
    have hprevious : FitsInt32 (d.year - 1) := hyear.fits (-1) (by decide)
    have hlen := newYearDay_succ hprevious (by rw [Int.sub_add_cancel]; exact d.fits_year)
    rw [Int.sub_add_cancel] at hlen
    dsimp only at hposition ⊢
    rw [Int.sub_add_cancel]
    omega
  | sameYear =>
    rw [hp] at hposition
    exact hposition
  | nextYear =>
    rw [hp] at hposition
    have hafter := hyear.fits 2 (by decide)
    have hlen := newYearDay_succ hnext (by rwa [Int.add_assoc])
    dsimp only at hposition ⊢
    omega

/-- The number of a week, before it is stored, counts the weeks of its year. -/
theorem weekOfYear_eq_wrapByte {d : Date} (h : d.IsValid) (rules : WeekRules)
    (hyear : IsWeekYear d.year) :
    d.weekOfYear rules =
      wrapByte ((d.decidingDay rules - newYearDay (d.weekYear rules)) / 7 + 1) := by
  have hmem := decidingDay_mem_weekYear h rules hyear
  have hbounds := decidingDay_bounds d rules
  have hnext := hyear.fits 1 (by decide)
  have hhigh := absoluteDay_lt_newYearDay h hnext (by omega)
  unfold weekYear at hmem ⊢
  unfold weekOfYear
  cases hp : d.weekPosition rules with
  | previousYear =>
    rw [hp] at hmem
    dsimp only at hmem ⊢
    rw [weeks_since_weekOneStart d rules hmem.1]
  | sameYear =>
    rw [hp] at hmem
    dsimp only at hmem ⊢
    rw [weeks_since_weekOneStart d rules hmem.1]
  | nextYear =>
    rw [hp] at hmem
    dsimp only at hmem ⊢
    unfold wrapByte
    omega

/-- The year of a week and the year after it fit in 32 bits. -/
theorem fits_weekYear {d : Date} (rules : WeekRules) (hyear : IsWeekYear d.year) :
    FitsInt32 (d.weekYear rules) ∧ FitsInt32 (d.weekYear rules + 1) := by
  unfold IsWeekYear at hyear
  unfold weekYear FitsInt32
  split <;> omega

/-- A date is counted from the first week of the year of its week, by weeks and by weekdays. -/
theorem absoluteDay_eq_weeks {d : Date} (h : d.IsValid) (rules : WeekRules)
    (hyear : IsWeekYear d.year) :
    d.absoluteDay = weekOneStart (d.weekYear rules) rules + 7 * (d.weekOfYear rules - 1) +
      (d.weekday rules.firstDay - 1) := by
  have hmem := decidingDay_mem_weekYear h rules hyear
  have hminimal := rules.minimalDays_range
  obtain ⟨hstart, hlow, hhigh⟩ := weekOneStart_spec (d.weekYear rules) rules
  obtain ⟨hfits, hnext⟩ := fits_weekYear rules hyear
  have hlen := newYearDay_succ hfits hnext
  rw [weekOfYear_eq_wrapByte h rules hyear]
  unfold wrapByte
  have hweekday := weekday_eq d rules
  unfold decidingDay at hmem ⊢
  omega

/-- The day that decides about a week has a number. -/
theorem isDayNumber_decidingDay {d : Date} (h : d.IsValid) (rules : WeekRules)
    (hyear : IsWeekYear d.year) : IsDayNumber (d.decidingDay rules) := by
  have hnext := hyear.fits 1 (by decide)
  have hlow := newYearDay_le_absoluteDay h
  have hhigh := absoluteDay_lt_newYearDay h hnext (by omega)
  have hbounds := decidingDay_bounds d rules
  unfold IsWeekYear at hyear
  have hfirst := @newYearDay_bounds d.year (by omega)
  have hlast := @newYearDay_bounds (d.year + 1) (by omega)
  unfold IsDayNumber maxAbsoluteDay
  omega

/-- A week is numbered as its deciding day is, the one with the number `8 - minimalDays` in the
week. Under all rules and in every year, 1582 included, the year of the week of a date is the year
of that day, and the number of the week is the number of sevens of days that the year has begun by
then. It lies between 1 and 53, and storing it loses nothing. -/
theorem weekYear_weekOfYear_eq (d : Date) (rules : WeekRules) (h : d.IsValid)
    (hyear : -799000000 ≤ d.year ∧ d.year ≤ 799000000) :
    let deciding := ofAbsoluteDay
      (d.absoluteDay - d.weekday rules.firstDay + (8 - rules.minimalDays))
    deciding.weekday rules.firstDay = 8 - rules.minimalDays ∧
      d.weekYear rules = deciding.year ∧
      d.weekOfYear rules = (deciding.dayOfYear - 1) / 7 + 1 ∧
      (1 ≤ d.weekOfYear rules ∧ d.weekOfYear rules ≤ 53) ∧
      d.weekOfYear rules =
        (d.absoluteDay - weekOneStart (d.weekYear rules) rules).tdiv 7 + 1 := by
  intro deciding
  obtain ⟨hvalid, hcount⟩ := absoluteDay_ofAbsoluteDay (isDayNumber_decidingDay h rules hyear)
  change deciding.IsValid at hvalid
  change deciding.absoluteDay = d.decidingDay rules at hcount
  have hmem := decidingDay_mem_weekYear h rules hyear
  have hfits : FitsInt32 (d.weekYear rules) ∧ FitsInt32 (d.weekYear rules + 1) := by
    unfold weekYear FitsInt32
    split <;> omega
  have hweekYear : deciding.year = d.weekYear rules :=
    (year_eq_iff hvalid hfits.1 hfits.2).2 (by rwa [hcount])
  obtain ⟨hday, hdayRange⟩ := dayOfYear_eq hvalid (by rw [hweekYear]; exact hfits.2)
  have hweek := weekOfYear_eq_wrapByte h rules hyear
  have hweeks := weeks_since_weekOneStart d rules hmem.1
  rw [hweekYear, hcount] at hday
  have hstored : d.weekOfYear rules = (deciding.dayOfYear - 1) / 7 + 1 := by
    rw [hweek, hday]
    unfold wrapByte
    omega
  refine ⟨?_, hweekYear.symm, hstored, by omega, by rw [hweeks]; omega⟩
  have hminimal := rules.minimalDays_range
  rw [weekday_eq, hcount, decidingDay, weekday_eq]
  omega

/-- The year of 355 days ends in its week 51, and the first of January 2005 lies in week 53 of the
year before. -/
theorem weekYear_weekOfYear_shortYear :
    (pack 1582 12 31).weekYear .iso = 1582 ∧ (pack 1582 12 31).weekOfYear .iso = 51 ∧
      (pack 2005 1 1).weekYear .iso = 2004 ∧ (pack 2005 1 1).weekOfYear .iso = 53 := by
  obtain ⟨-, hyear, hweek, -⟩ :=
    weekYear_weekOfYear_eq (pack 1582 12 31) .iso (by decide) (by decide)
  obtain ⟨-, hyear', hweek', -⟩ :=
    weekYear_weekOfYear_eq (pack 2005 1 1) .iso (by decide) (by decide)
  rw [hyear, hweek, hyear', hweek']
  decide

end Date

end CivilTime
