import CivilTime.Literal.Field
import CivilTime.Proofs.Date.DayOfYear
import CivilTime.Proofs.Date.Week

/-!
# Fields of one moment

The fields of a date and a time belong to several systems: months and days, days of the year, weeks of
ISO 8601, weekdays from Monday and from Sunday, and the time of day. All of them describe the same
moment (`datePart_same_moment`). So a date is found again from its year and the number of the day in
it, and from its ISO year, week and weekday, also around New Year, where the two years differ, and in
1582, which is ten days shorter.
-/

set_option autoImplicit false

namespace CivilTime

/-! ## Times -/

/-- The nanoseconds of a time of day are those of its fields and the rest of a millisecond. -/
theorem Clock.nanos_of_fields {nanos : Int} (h : IsTimeOfDay nanos) :
    Fields.nanos ⟨(split nanos).hour.tmod 24, (split nanos).minute, (split nanos).second,
      (split nanos).millisecond⟩ + nanos % nanosPerMilli = nanos := by
  obtain ⟨hnonneg, hlt⟩ := h
  have htdiv : ∀ {d : Int}, nanos.tdiv d = nanos / d := Int.tdiv_eq_ediv_of_nonneg hnonneg
  unfold nanosPerDay at hlt
  unfold split Fields.nanos Fields.millis
  simp only [htdiv]
  unfold nanosPerHour nanosPerMinute nanosPerSecond nanosPerMilli
  rw [Int.tmod_eq_emod_of_nonneg (by omega), Int.tmod_eq_emod_of_nonneg (by omega),
    Int.tmod_eq_emod_of_nonneg (by omega), Int.tmod_eq_emod_of_nonneg (by omega)]
  omega

namespace Date

/-! ## Days of a year -/

/-- The number of a day in its year counts the days of the earlier months. -/
theorem dayOfYear_eq_daysOfMonths {d : Date} (h : d.IsValid) (hnext : FitsInt32 (d.year + 1)) :
    d.dayOfYear = d.day + daysOfMonths d.year (d.month - 1).toNat -
      if d.FollowsCutover then 10 else 0 := by
  have hmonth := h.1
  have hcount := absoluteDay_eq_daysOfMonths_sub h (n := (d.month - 1).toNat) (by omega)
  rw [(dayOfYear_eq h hnext).1, hcount]
  omega

/-- A date and another one on the same day have the same fields. -/
theorem fields_eq_of_absoluteDay_eq {d e : Date} (hd : d.IsValid) (he : e.IsValid)
    (h : d.absoluteDay = e.absoluteDay) : d.year = e.year ∧ d.month = e.month ∧ d.day = e.day := by
  have hlt : ¬ FieldsLt d e := by
    intro hbefore
    have hcount := absoluteDay_lt_of_fieldsLt hd he hbefore
    omega
  have hgt : ¬ FieldsLt e d := by
    intro hbefore
    have hcount := absoluteDay_lt_of_fieldsLt he hd hbefore
    omega
  unfold FieldsLt at hlt hgt
  omega

/-! ## Weeks of ISO 8601 -/

/-- The day is the Monday of the week that has the fourth of January of the year in it. -/
structure IsFirstMonday (year monday : Int) : Prop where
  weekday : weekdayNumber monday 1 = 1
  before : monday ≤ (pack year 1 4).absoluteDay
  within : (pack year 1 4).absoluteDay < monday + 7

/-- By the rules of ISO, week 1 starts on a Monday with four days or more in the year. -/
theorem isFirstMonday_weekOneStart {year : Int} (h : FitsInt32 year) :
    IsFirstMonday year (weekOneStart year .iso) := by
  have hfourth : IsCalendarDate year 1 4 := by
    have hlen := daysInMonth_bounds year 1
    refine ⟨by decide, ⟨by decide, by omega⟩, ?_⟩
    rintro ⟨-, hoctober, -⟩
    exact absurd hoctober (by decide)
  obtain ⟨hy, hm, hd⟩ := fields_pack_of_isCalendarDate h hfourth
  obtain ⟨hy₁, hm₁, hd₁⟩ := fields_newYear h
  have hcount := absoluteDay_sub_of_month (hy.trans hy₁.symm) (hm.trans hm₁.symm) (by omega)
  have hnewYear : newYearDay year = (pack year 1 1).absoluteDay := rfl
  obtain ⟨hstart, hlow, hhigh⟩ := weekOneStart_spec year .iso
  have hfirst : WeekRules.iso.firstDay = 1 := rfl
  have hminimal : WeekRules.iso.minimalDays = 4 := rfl
  refine ⟨?_, ?_, ?_⟩
  · rw [weekdayNumber_eq _ (by decide)]
    omega
  · omega
  · omega

/-- The Monday of a week and a date of it, by the number of the week and the weekday. -/
theorem absoluteDay_eq_isoWeeks {d : Date} (h : d.IsValid) (hyear : IsWeekYear d.year) :
    d.absoluteDay =
      weekOneStart d.isoWeekYear .iso + 7 * (d.isoWeekOfYear - 1) + (d.isoWeekday - 1) :=
  absoluteDay_eq_weeks h .iso hyear

/-- Sunday is the first weekday of one numbering and the last one of the other. -/
theorem sundayWeekday_eq (d : Date) : d.sundayWeekday = d.isoWeekday % 7 + 1 := by
  have hsunday := @weekdayNumber_eq_of_monday d.absoluteDay 0 (by decide)
  rw [Int.sub_zero] at hsunday
  exact hsunday

/-! ## One moment -/

/-- The fields of a date and a time of day describe one moment. The number of the day in the year
counts the days of the months before and of the month itself, less the ten that were left out in
1582. The ISO year, week and weekday count from the Monday of the week of the fourth of January. The
two weekdays differ in where they begin, and the time fields make up the time of day but for the
rest of a millisecond. So two dates of the same year and day of the year, or of the same ISO year,
week and weekday, are one. -/
theorem datePart_same_moment (d : Date) (nanos : Int) (rules : WeekRules) (h : d.IsValid)
    (hyear : -799000000 ≤ d.year ∧ d.year ≤ 799000000) (hnanos : Clock.IsTimeOfDay nanos) :
    let part := datePart d nanos rules
    (part .dayOfYear = part .dayOfMonth +
        daysOfMonths (part .year) (part .month - 1).toNat - (if d.FollowsCutover then 10 else 0) ∧
      1 ≤ part .dayOfYear ∧ part .dayOfYear ≤ 366) ∧
    (∃ monday, IsFirstMonday (part .isoYear) monday ∧
      d.absoluteDay = monday + 7 * (part .isoWeek - 1) + part .isoDayOfWeek - 1) ∧
    part .dayOfWeek = part .isoDayOfWeek % 7 + 1 ∧
    nanos = Clock.Fields.nanos ⟨part .hour, part .minute, part .second, part .millisecond⟩ +
      nanos % 1000000 ∧
    ∀ (e : Date) (nanos' : Int) (rules' : WeekRules), e.IsValid →
      -799000000 ≤ e.year ∧ e.year ≤ 799000000 →
      ((datePart e nanos' rules' .year = part .year ∧
          datePart e nanos' rules' .dayOfYear = part .dayOfYear) ∨
        (datePart e nanos' rules' .isoYear = part .isoYear ∧
          datePart e nanos' rules' .isoWeek = part .isoWeek ∧
          datePart e nanos' rules' .isoDayOfWeek = part .isoDayOfWeek)) →
      (e.year = d.year ∧ e.month = d.month ∧ e.day = d.day) ∧
        (d.IsWritable → e.IsWritable → e = d) := by
  intro part
  have hnext : FitsInt32 (d.year + 1) := fits_of_bounds (by omega)
  have hweeks := absoluteDay_eq_isoWeeks h hyear
  refine ⟨⟨dayOfYear_eq_daysOfMonths h hnext, (dayOfYear_eq h hnext).2⟩, ?_, sundayWeekday_eq d,
    (Clock.nanos_of_fields hnanos).symm, ?_⟩
  · refine ⟨_, isFirstMonday_weekOneStart (fits_weekYear .iso hyear).1, ?_⟩
    change d.absoluteDay =
      weekOneStart d.isoWeekYear .iso + 7 * (d.isoWeekOfYear - 1) + d.isoWeekday - 1
    omega
  · intro e nanos' rules' he heyear hsame
    have hday : e.absoluteDay = d.absoluteDay := by
      rcases hsame with ⟨hsameYear, hsameDay⟩ | ⟨hsameYear, hsameWeek, hsameDay⟩
      · change e.year = d.year at hsameYear
        change e.dayOfYear = d.dayOfYear at hsameDay
        have hcount := (dayOfYear_eq h hnext).1
        have hcount' := (dayOfYear_eq he (by rwa [hsameYear])).1
        rw [hsameYear] at hcount'
        omega
      · change e.isoWeekYear = d.isoWeekYear at hsameYear
        change e.isoWeekOfYear = d.isoWeekOfYear at hsameWeek
        change e.isoWeekday = d.isoWeekday at hsameDay
        rw [absoluteDay_eq_isoWeeks he heyear, hsameYear, hsameWeek, hsameDay, hweeks]
    have hfields := fields_eq_of_absoluteDay_eq he h hday
    refine ⟨hfields, ?_⟩
    intro hd he
    rw [hd.eq_pack, he.eq_pack, hfields.1, hfields.2.1, hfields.2.2]

/-- The last day of the year of 355 days, a Friday of its week 51, is found from either system. -/
theorem datePart_same_moment_shortYear :
    datePart (pack 1582 12 31) 45296789012345 .sundayStart .dayOfYear = 355 ∧
    (∃ monday, IsFirstMonday 1582 monday ∧
      (pack 1582 12 31).absoluteDay = monday + 7 * (51 - 1) + 5 - 1) ∧
    ∀ e : Date, e.IsWritable → e.year = 1582 → e.dayOfYear = 355 → e = pack 1582 12 31 := by
  have hwritable : (pack 1582 12 31).IsWritable := isWritable_pack (by decide) (by decide)
  obtain ⟨⟨hday, -⟩, ⟨monday, hmonday, hweek⟩, -, -, hsame⟩ := datePart_same_moment (pack 1582 12 31)
    45296789012345 .sundayStart (by decide) (by decide) (by decide)
  refine ⟨hday.trans (by decide), ⟨monday, hmonday, hweek⟩, ?_⟩
  intro e he hyear hdayOfYear
  have hrange : -799000000 ≤ e.year ∧ e.year ≤ 799000000 := by omega
  exact (hsame e 0 .iso he.isValid hrange (.inl ⟨hyear, hdayOfYear⟩)).2 hwritable he

end Date

end CivilTime
