import CivilTime.Proofs.Date.MarchDay

/-!
# Day numbers and dates are inverse

Both directions of the conversion are compared with one count: the days of the March years before
the year of a day, plus its number in the year. The years are Julian up to the change of calendar
and Gregorian from then on. The count is strictly increasing over the days that exist, and so a
day is known by its number.
-/

set_option autoImplicit false

namespace CivilTime

/-! ## The days before a March year -/

/-- The days of the Julian years from March of the year zero on. -/
def julianYearStart (year : Int) : Int := 365 * year + year / 4

/-- The days of the Gregorian years from March of the year zero on. -/
def gregorianYearStart (year : Int) : Int := julianYearStart year - year / 100 + year / 400

/-- Julian years begin in the order of their numbers. -/
theorem julianYearStart_mono {a b : Int} (h : a ≤ b) : julianYearStart a ≤ julianYearStart b := by
  unfold julianYearStart
  omega

/-- Gregorian years begin in the order of their numbers. -/
theorem gregorianYearStart_mono {a b : Int} (h : a ≤ b) :
    gregorianYearStart a ≤ gregorianYearStart b := by
  unfold gregorianYearStart julianYearStart
  omega

/-- The length of a Julian year depends on its last February. -/
theorem julianYearStart_succ (year : Int) :
    julianYearStart (year + 1) = julianYearStart year + 365 + if year % 4 = 3 then 1 else 0 := by
  unfold julianYearStart
  split <;> omega

/-- A Gregorian year has 365 days, or 366 if it ends with a leap day. -/
theorem gregorianYearStart_succ (year : Int) :
    gregorianYearStart (year + 1) = gregorianYearStart year + 365 +
      if year % 4 = 3 ∧ (year % 100 ≠ 99 ∨ year % 400 = 399) then 1 else 0 := by
  unfold gregorianYearStart julianYearStart
  split <;> omega

namespace MarchDay

/-- The day is one of the last Julian day or before. -/
def IsJulian (p : MarchDay) : Prop :=
  p.year < cutoverYear ∨ (p.year = cutoverYear ∧ p.day < 218)

instance (p : MarchDay) : Decidable p.IsJulian := inferInstanceAs (Decidable (_ ∨ _ ∧ _))

/-- The number of a day, counted from 1970-01-01. -/
def number (p : MarchDay) : Int :=
  if p.IsJulian then julianYearStart p.year + p.day - 719470
  else gregorianYearStart p.year + p.day - 719468

/-- A Julian year, which has every leap day that any year has, ends after all its days. -/
theorem lt_julianYearStart_succ {p : MarchDay} (h : p.IsProper) :
    julianYearStart p.year + p.day < julianYearStart (p.year + 1) := by
  have hday := h.day_range
  have hleap := h.leap
  unfold IsLeapYear at hleap
  rw [julianYearStart_succ]
  split <;> omega

/-- A day of a Gregorian year is counted before the next year begins. -/
theorem lt_gregorianYearStart_succ {p : MarchDay} (h : p.IsProper) (hj : ¬ p.IsJulian) :
    gregorianYearStart p.year + p.day < gregorianYearStart (p.year + 1) := by
  have hday := h.day_range
  have hleap := h.leap
  unfold IsLeapYear at hleap
  unfold IsJulian at hj
  unfold cutoverYear at hleap hj
  rw [gregorianYearStart_succ]
  split <;> omega

/-- The last Julian day is 1582-10-04. -/
theorem number_le_of_isJulian {p : MarchDay} (h : p.IsProper) (hj : p.IsJulian) :
    p.number ≤ -141428 := by
  have hday := h.day_range
  have hlast := lt_julianYearStart_succ h
  rw [number, if_pos hj]
  unfold IsJulian cutoverYear at hj
  unfold julianYearStart at hlast ⊢
  omega

/-- The first Gregorian day is 1582-10-15. -/
theorem lt_number_of_not_isJulian {p : MarchDay} (h : p.IsProper) (hj : ¬ p.IsJulian) :
    -141428 < p.number := by
  have hday := h.day_range
  have hgap := h.not_gap
  rw [number, if_neg hj]
  unfold IsJulian at hj
  unfold cutoverYear at hj hgap
  unfold gregorianYearStart julianYearStart
  omega

/-- Days are numbered in the order of the calendar, over the cutover as elsewhere. -/
theorem number_lt_number {p q : MarchDay} (hp : p.IsProper) (hq : q.IsProper)
    (h : p.year < q.year ∨ (p.year = q.year ∧ p.day < q.day)) : p.number < q.number := by
  -- within one calendar the counts are compared, and the change of calendar separates the others
  by_cases hpj : p.IsJulian <;> by_cases hqj : q.IsJulian
  · have hlast := lt_julianYearStart_succ hp
    have hday := hq.day_range
    rw [number, number, if_pos hpj, if_pos hqj]
    rcases h with hyear | ⟨hyear, hlt⟩
    · have := julianYearStart_mono (a := p.year + 1) hyear
      omega
    · rw [hyear]
      omega
  · have := number_le_of_isJulian hp hpj
    have := lt_number_of_not_isJulian hq hqj
    omega
  · unfold IsJulian at hpj hqj
    omega
  · have hlast := lt_gregorianYearStart_succ hp hpj
    have hday := hq.day_range
    rw [number, number, if_neg hpj, if_neg hqj]
    rcases h with hyear | ⟨hyear, hlt⟩
    · have := gregorianYearStart_mono (a := p.year + 1) hyear
      omega
    · rw [hyear]
      omega

/-- Days of one number are one day. -/
theorem eq_of_number_eq {p q : MarchDay} (hp : p.IsProper) (hq : q.IsProper)
    (h : p.number = q.number) : p = q := by
  have hpq : ¬ (p.year < q.year ∨ (p.year = q.year ∧ p.day < q.day)) := fun hlt =>
    absurd (number_lt_number hp hq hlt) (by omega)
  have hqp : ¬ (q.year < p.year ∨ (q.year = p.year ∧ q.day < p.day)) := fun hlt =>
    absurd (number_lt_number hq hp hlt) (by omega)
  obtain ⟨py, pd⟩ := p
  obtain ⟨qy, qd⟩ := q
  dsimp only at hpq hqp
  have hyear : py = qy := by omega
  have hday : pd = qd := by omega
  rw [hyear, hday]

end MarchDay

/-! ## From dates to day numbers -/

namespace Date

/-- Counting years from March leaves a date on its side of the cutover. -/
theorem isJulian_toMarchDay {d : Date} (h : d.IsValid) :
    d.toMarchDay.IsJulian ↔ d.IsJulian := by
  have hk : 0 ≤ d.marchMonth ∧ d.marchMonth < 12 := ⟨(marchMonth_bounds d).1, marchMonth_lt h.1⟩
  obtain ⟨hlow, hhigh⟩ := toMarchDay_mem_month h
  rw [daysBeforeMarchMonth_succ hk] at hhigh
  unfold MarchDay.IsJulian IsJulian
  dsimp only [toMarchDay] at hlow hhigh ⊢
  rw [daysBeforeMarchMonth_eq hk] at hlow hhigh ⊢
  split at hhigh <;> omega

/-- In the two centuries around 2000 the corrections of the Gregorian count cancel those of the
epoch. -/
theorem centuries_of_mem {year : Int} (h : 1901 ≤ year ∧ year ≤ 2099) :
    year / 400 - year / 100 + 15 = 0 := by
  have hcentury : year / 100 = 19 ∨ year / 100 = 20 := by omega
  omega

/-- The number of a date is that of its day in the March year. -/
theorem absoluteDay_eq_number {d : Date} (h : d.IsValid) :
    d.absoluteDay = d.toMarchDay.number := by
  have hjulian := isJulian_toMarchDay h
  rw [absoluteDay, MarchDay.number]
  by_cases hj : d.IsJulian
  · rw [if_pos hj, if_pos (hjulian.2 hj)]
    unfold julianYearStart toMarchDay
    dsimp only
    omega
  · rw [if_neg hj, if_neg (mt hjulian.1 hj)]
    unfold gregorianYearStart julianYearStart toMarchDay
    dsimp only
    split
    · next hspan =>
      have := centuries_of_mem hspan
      omega
    · omega

/-- The place of a month in years that begin in March depends on year and month only. -/
theorem marchYear_marchMonth_congr {d e : Date} (hyear : d.year = e.year)
    (hmonth : d.month = e.month) : d.marchYear = e.marchYear ∧ d.marchMonth = e.marchMonth := by
  constructor
  · rw [marchYear, marchYear, hyear, hmonth]
  · rw [marchMonth, marchMonth, hmonth]

/-- The number of a date depends on its fields only, whatever else is set in its bits. -/
theorem absoluteDay_congr {d e : Date} (hyear : d.year = e.year) (hmonth : d.month = e.month)
    (hday : d.day = e.day) : d.absoluteDay = e.absoluteDay := by
  obtain ⟨hmarchYear, hmarchMonth⟩ := marchYear_marchMonth_congr hyear hmonth
  have hjulian : d.IsJulian ↔ e.IsJulian := by
    rw [IsJulian, IsJulian, hmarchYear, hmarchMonth, hday]
  simp only [absoluteDay, hjulian]
  rw [hmarchYear, hmarchMonth, hday]

/-- Within a month, but that of the change of calendar, days are counted by their numbers. -/
theorem absoluteDay_sub_of_month {d e : Date} (hyear : d.year = e.year)
    (hmonth : d.month = e.month) (hoctober : ¬ (d.year = cutoverYear ∧ d.month = 10)) :
    d.absoluteDay - e.absoluteDay = d.day - e.day := by
  obtain ⟨hmarchYear, hmarchMonth⟩ := marchYear_marchMonth_congr hyear hmonth
  have hrange := d.month_range
  have hd := d.day_range
  have he := e.day_range
  -- only in October 1582 do the two calendars meet within a month
  have hjulian : d.IsJulian ↔ e.IsJulian := by
    unfold IsJulian
    rw [← hmarchYear, ← hmarchMonth]
    unfold marchYear marchMonth
    split <;> omega
  simp only [absoluteDay, hjulian]
  rw [hmarchYear, hmarchMonth]
  split_ifs <;> omega

end Date

/-! ## From day numbers to dates -/

namespace MarchDay

/-- A day of a run of four-year blocks lies as many days after its start as its number says. -/
theorem ofBlockDay_false {year : Int} (hyear : year % 4 = 0) (n : Int) :
    let p := ofBlockDay year false n
    (0 ≤ p.day ∧ p.day ≤ 365) ∧ (p.day = 365 → p.year % 4 = 3) ∧
      julianYearStart p.year + p.day = julianYearStart year + n := by
  unfold ofBlockDay julianYearStart
  dsimp only
  split
  · next h =>
    simp only [Bool.false_eq_true, or_false] at h
    dsimp only
    omega
  · next h =>
    simp only [Bool.false_eq_true, or_false] at h
    dsimp only
    omega

/-- The day after the last century of a cycle is the leap day that closes it. -/
theorem ofBlockDay_true_zero (year : Int) : ofBlockDay year true 0 = ⟨year - 1, 365⟩ := by
  simp [ofBlockDay]

/-- Taking 400 years and centuries out first follows the Gregorian count. -/
theorem ofBlockDay_century (march : Int) :
    let p := ofBlockDay (march / 146097 * 400 + march % 146097 / 36524 * 100)
      (march % 146097 / 36524 == 4) (march % 146097 % 36524)
    (0 ≤ p.day ∧ p.day ≤ 365) ∧
      (p.day = 365 → p.year % 4 = 3 ∧ (p.year % 100 ≠ 99 ∨ p.year % 400 = 399)) ∧
      gregorianYearStart p.year + p.day = march := by
  unfold gregorianYearStart
  by_cases hcentury : march % 146097 / 36524 = 4
  · have hzero : march % 146097 % 36524 = 0 := by omega
    simp only [hcentury, hzero, beq_self_eq_true, ofBlockDay_true_zero]
    unfold julianYearStart
    omega
  · have hbeq : (march % 146097 / 36524 == 4) = false := by simpa using hcentury
    rw [hbeq]
    generalize hfirst : march / 146097 * 400 + march % 146097 / 36524 * 100 = first
    obtain ⟨hday, hleap, hcount⟩ :=
      @ofBlockDay_false first (by omega) (march % 146097 % 36524)
    generalize ofBlockDay first false (march % 146097 % 36524) = p at hday hleap hcount
    unfold julianYearStart at hcount ⊢
    -- no day of the century leaves its hundred years, so both corrections are those of its start
    have hlow : first ≤ p.year := by omega
    have hhigh : p.year ≤ first + 99 := by omega
    have hcenturies : p.year / 100 = march / 146097 * 4 + march % 146097 / 36524 := by omega
    have hcycles : p.year / 400 = march / 146097 := by omega
    dsimp only
    refine ⟨hday, ?_, ?_⟩
    · intro hlast
      have := hleap hlast
      omega
    · omega

end MarchDay

namespace Date

/-- The day number lies within the limits of the conversion. -/
def IsDayNumber (n : Int) : Prop := -maxAbsoluteDay ≤ n ∧ n ≤ maxAbsoluteDay

instance (n : Int) : Decidable (IsDayNumber n) := inferInstanceAs (Decidable (_ ∧ _))

/-- The number of a date is not clamped. -/
theorem clampAbsoluteDay_of_isDayNumber {n : Int} (h : IsDayNumber n) :
    clampAbsoluteDay n = n := by
  unfold IsDayNumber at h
  unfold clampAbsoluteDay
  omega

/-- What is clamped is the number of a date. -/
theorem isDayNumber_clampAbsoluteDay (n : Int) : IsDayNumber (clampAbsoluteDay n) := by
  unfold IsDayNumber clampAbsoluteDay maxAbsoluteDay
  omega

end Date

namespace MarchDay

open Date

/-- The number of a day is clamped before its date is found, so clamping it once more changes
nothing. -/
theorem ofAbsoluteDay_clamp (n : Int) : ofAbsoluteDay (clampAbsoluteDay n) = ofAbsoluteDay n := by
  rw [ofAbsoluteDay, clampAbsoluteDay_of_isDayNumber (isDayNumber_clampAbsoluteDay n),
    ofAbsoluteDay]

/-- Up to the last Julian day, the day that is found is a day of the calendar with the number asked
for. -/
theorem ofAbsoluteDay_of_le {n : Int} (h : IsDayNumber n) (hj : n ≤ -141428) :
    (ofAbsoluteDay n).IsProper ∧ (ofAbsoluteDay n).number = n := by
  unfold ofAbsoluteDay
  dsimp only
  rw [clampAbsoluteDay_of_isDayNumber h, if_neg (by omega)]
  obtain ⟨hday, hleap, hcount⟩ :=
    @ofBlockDay_false (-800000000) (by decide) (n + 719468 + 292200000002)
  generalize ofBlockDay (-800000000) false (n + 719468 + 292200000002) = p at hday hleap hcount
  have hjulian : p.IsJulian := by
    unfold IsJulian cutoverYear
    unfold julianYearStart at hcount
    omega
  refine ⟨⟨hday, ?_, ?_⟩, ?_⟩
  · intro hlast
    unfold IsJulian cutoverYear at hjulian
    unfold IsLeapYear cutoverYear
    omega
  · unfold IsJulian at hjulian
    omega
  · rw [number, if_pos hjulian, hcount]
    unfold julianYearStart
    omega

/-- From the first Gregorian day on, the day that is found is a day of the calendar with the number
asked for. -/
theorem ofAbsoluteDay_of_lt {n : Int} (h : IsDayNumber n) (hj : -141428 < n) :
    (ofAbsoluteDay n).IsProper ∧ (ofAbsoluteDay n).number = n := by
  unfold ofAbsoluteDay
  dsimp only
  rw [clampAbsoluteDay_of_isDayNumber h, if_pos (by omega)]
  obtain ⟨hday, hleap, hcount⟩ := ofBlockDay_century (n + 719468)
  generalize ofBlockDay ((n + 719468) / 146097 * 400 + (n + 719468) % 146097 / 36524 * 100)
    ((n + 719468) % 146097 / 36524 == 4) ((n + 719468) % 146097 % 36524) = p
    at hday hleap hcount
  have hlate : cutoverYear < p.year ∨ (p.year = cutoverYear ∧ 227 < p.day) := by
    unfold cutoverYear
    unfold gregorianYearStart julianYearStart at hcount
    omega
  have hjulian : ¬ p.IsJulian := by
    unfold IsJulian
    omega
  refine ⟨⟨hday, ?_, ?_⟩, ?_⟩
  · intro hlast
    have := hleap hlast
    unfold IsLeapYear
    omega
  · omega
  · rw [number, if_neg hjulian, hcount]
    omega

/-- A day number is the number of the day it is taken apart into, and that day exists. -/
theorem number_ofAbsoluteDay {n : Int} (h : IsDayNumber n) :
    (ofAbsoluteDay n).IsProper ∧ (ofAbsoluteDay n).number = n := by
  by_cases hj : n ≤ -141428
  · exact ofAbsoluteDay_of_le h hj
  · exact ofAbsoluteDay_of_lt h (by omega)

/-- The years of all days that have a number fit in 32 bits. -/
theorem fits_civilYear {p : MarchDay} (h : p.IsProper) (hn : IsDayNumber p.number) :
    FitsInt32 p.civilYear := by
  have hday := h.day_range
  have hyear : p.year ≤ p.civilYear ∧ p.civilYear ≤ p.year + 1 := by
    unfold civilYear
    split <;> omega
  unfold IsDayNumber maxAbsoluteDay number at hn
  unfold FitsInt32
  split at hn
  · unfold julianYearStart at hn
    omega
  · unfold gregorianYearStart julianYearStart at hn
    omega

/-- What is stored of a day loses nothing: its month has an entry in the table of months, and its
year, month and day of the month fit their fields. -/
structure IsStorable (p : MarchDay) : Prop where
  month_range : 0 ≤ p.month ∧ p.month < marchMonthStarts.length
  year_eq : wrapInt32 p.civilYear = p.civilYear
  month_eq : wrapByte p.civilMonth = p.civilMonth
  day_eq : wrapByte p.dayOfMonth = p.dayOfMonth

/-- A day of the calendar whose year fits has fields that a date can hold. -/
theorem isStorable_of_isProper {p : MarchDay} (h : p.IsProper) (hyear : FitsInt32 p.civilYear) :
    p.IsStorable := by
  have hk := month_bounds h.day_range
  obtain ⟨hmonth, hday, -⟩ := isCalendarDate_civil h
  have hlen := daysInMonth_bounds p.civilYear p.civilMonth
  refine ⟨⟨hk.1, ?_⟩, wrapInt32_of_fits hyear, ?_, ?_⟩
  · change p.month < 13
    omega
  · unfold wrapByte
    omega
  · unfold wrapByte
    omega

end MarchDay

namespace Date

/-- A day number becomes a date of the calendar, and is the number of that date. -/
theorem absoluteDay_ofAbsoluteDay {n : Int} (h : IsDayNumber n) :
    (ofAbsoluteDay n).IsValid ∧ (ofAbsoluteDay n).absoluteDay = n := by
  obtain ⟨hproper, hnumber⟩ := MarchDay.number_ofAbsoluteDay h
  have hyear := MarchDay.fits_civilYear hproper (by rwa [hnumber])
  have hvalid : (ofAbsoluteDay n).IsValid := MarchDay.isValid_toDate hproper hyear
  refine ⟨hvalid, ?_⟩
  rw [absoluteDay_eq_number hvalid, ofAbsoluteDay, MarchDay.toMarchDay_toDate hproper hyear,
    hnumber]

/-- From the number of a valid date its fields are found again. -/
theorem ofAbsoluteDay_absoluteDay {d : Date} (h : d.IsValid) (hn : IsDayNumber d.absoluteDay) :
    ofAbsoluteDay d.absoluteDay = pack d.year d.month d.day := by
  obtain ⟨hproper, hnumber⟩ := MarchDay.number_ofAbsoluteDay hn
  rw [absoluteDay_eq_number h] at hproper hnumber
  have hday := MarchDay.eq_of_number_eq hproper (isProper_toMarchDay h) hnumber
  rw [ofAbsoluteDay, absoluteDay_eq_number h, hday, toDate_toMarchDay h]

/-- Day numbers and dates are inverse to each other. Every number becomes a date of the calendar,
the same as the closest number within the limits, and a number within them is the number of its
date; what is stored on the way loses nothing. A date of the calendar whose number lies within the
limits comes back from it, and one whose bits exceed the fields comes back as its fields. The
table of months has an entry for every packed date. -/
theorem absoluteDay_ofAbsoluteDay_inverse :
    (∀ n : Int,
      (ofAbsoluteDay n).IsValid ∧ ofAbsoluteDay n = ofAbsoluteDay (clampAbsoluteDay n) ∧
        (IsDayNumber n → (ofAbsoluteDay n).absoluteDay = n) ∧
        (MarchDay.ofAbsoluteDay n).IsStorable) ∧
    (∀ year month day : Int, FitsInt32 year → IsCalendarDate year month day →
      IsDayNumber (pack year month day).absoluteDay →
        ofAbsoluteDay (pack year month day).absoluteDay = pack year month day) ∧
    (∀ d : Date, d.IsValid → IsDayNumber d.absoluteDay →
      ofAbsoluteDay d.absoluteDay = pack d.year d.month d.day) ∧
    ∀ d : Date, 0 ≤ d.marchMonth ∧ d.marchMonth < marchMonthStarts.length := by
  refine ⟨fun n => ?_, fun year month day hyear hdate hn => ?_, fun d => ofAbsoluteDay_absoluteDay,
    marchMonth_bounds⟩
  · have hclamp : ofAbsoluteDay (clampAbsoluteDay n) = ofAbsoluteDay n := by
      rw [ofAbsoluteDay, MarchDay.ofAbsoluteDay_clamp, ofAbsoluteDay]
    have hrange := isDayNumber_clampAbsoluteDay n
    obtain ⟨hproper, hnumber⟩ := MarchDay.number_ofAbsoluteDay hrange
    have hyear := MarchDay.fits_civilYear hproper (by rwa [hnumber])
    rw [MarchDay.ofAbsoluteDay_clamp] at hproper hyear
    refine ⟨?_, hclamp.symm, fun hn => (absoluteDay_ofAbsoluteDay hn).2,
      MarchDay.isStorable_of_isProper hproper hyear⟩
    rw [← hclamp]
    exact (absoluteDay_ofAbsoluteDay hrange).1
  · obtain ⟨hy, hm, hd⟩ := fields_pack_of_isCalendarDate hyear hdate
    have hvalid : (pack year month day).IsValid := by
      rw [IsValid, hy, hm, hd]
      exact hdate
    have hback := ofAbsoluteDay_absoluteDay hvalid hn
    rwa [hy, hm, hd] at hback

/-- The leap day that closes 400 years, and a Julian one before the year zero. -/
theorem absoluteDay_ofAbsoluteDay_inverse_leapDays :
    (ofAbsoluteDay 11016).absoluteDay = 11016 ∧
      ofAbsoluteDay (pack (-4) 2 29).absoluteDay = pack (-4) 2 29 ∧
      ofAbsoluteDay (pack 2000 2 29).absoluteDay =
        pack (pack 2000 2 29).year (pack 2000 2 29).month (pack 2000 2 29).day :=
  ⟨(absoluteDay_ofAbsoluteDay_inverse.1 11016).2.2.1 (by decide),
    absoluteDay_ofAbsoluteDay_inverse.2.1 (-4) 2 29 (by decide) (by decide) (by decide),
    absoluteDay_ofAbsoluteDay_inverse.2.2.1 (pack 2000 2 29) (by decide) (by decide)⟩

end Date

end CivilTime
