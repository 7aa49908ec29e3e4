import CivilTime.Date.Week
import CivilTime.Proofs.Date.Order

/-!
# Years as runs of days

A year is the run of days from its first of January to the next one. The days of the dates of a
year are those of its run (`year_eq_iff`), also in 1582, which has ten days less than others.
-/

set_option autoImplicit false

namespace CivilTime

namespace Date

/-- The number of the first of January. -/
def newYearDay (year : Int) : Int := (pack year 1 1).absoluteDay

/-- The first of January has the year that it was made of. -/
theorem fields_newYear {year : Int} (h : FitsInt32 year) :
    (pack year 1 1).year = year ∧ (pack year 1 1).month = 1 ∧ (pack year 1 1).day = 1 :=
  ⟨year_pack h (by decide) (by decide), month_pack (by decide) (by decide),
    day_pack (by decide) (by decide)⟩

/-- The first of a month is a date in every year. -/
theorem isCalendarDate_first (year : Int) {month : Int} (h : 1 ≤ month ∧ month ≤ 12) :
    IsCalendarDate year month 1 := by
  have hlen := daysInMonth_bounds year month
  refine ⟨h, ⟨by decide, by omega⟩, ?_⟩
  rintro ⟨-, -, hgap⟩
  omega

/-- The first of January is a valid date in every year that fits. -/
theorem isValid_newYear {year : Int} (h : FitsInt32 year) : (pack year 1 1).IsValid :=
  (isWritable_pack h (isCalendarDate_first year (by decide))).isValid

/-- New Year is the day `306` of the March year before. -/
theorem toMarchDay_newYear {year : Int} (h : FitsInt32 year) :
    (pack year 1 1).toMarchDay = ⟨year - 1, 306⟩ := by
  obtain ⟨hyear, hmonth, hday⟩ := fields_newYear h
  rw [toMarchDay, marchYear, marchMonth, hyear, hmonth, hday]
  rfl

/-- The days before New Year by the calendar in which the year starts. -/
theorem newYearDay_eq {year : Int} (h : FitsInt32 year) :
    newYearDay year =
      if year ≤ cutoverYear then julianYearStart (year - 1) - 719164
      else gregorianYearStart (year - 1) - 719162 := by
  have hjulian : MarchDay.IsJulian ⟨year - 1, 306⟩ ↔ year ≤ cutoverYear := by
    unfold MarchDay.IsJulian
    dsimp only
    omega
  rw [newYearDay, absoluteDay_eq_number (isValid_newYear h), toMarchDay_newYear h]
  by_cases hj : year ≤ cutoverYear
  · rw [MarchDay.number_of_isJulian (hjulian.2 hj), if_pos hj]
    dsimp only
    omega
  · rw [MarchDay.number_of_not_isJulian (mt hjulian.1 hj), if_neg hj]
    dsimp only
    omega

/-- A year has 365 or 366 days, and 1582 has 355. -/
theorem newYearDay_succ {year : Int} (h : FitsInt32 year) (hnext : FitsInt32 (year + 1)) :
    newYearDay year + 355 ≤ newYearDay (year + 1) ∧
      newYearDay (year + 1) ≤ newYearDay year + 366 := by
  rw [newYearDay_eq h, newYearDay_eq hnext, show year + 1 - 1 = year - 1 + 1 by omega,
    julianYearStart_succ, gregorianYearStart_succ]
  unfold gregorianYearStart julianYearStart cutoverYear
  split_ifs <;> omega

/-- Years begin in the order of their numbers. -/
theorem newYearDay_lt {a b : Int} (ha : FitsInt32 a) (hb : FitsInt32 b) (h : a < b) :
    newYearDay a < newYearDay b := by
  refine absoluteDay_lt_of_fieldsLt (isValid_newYear ha) (isValid_newYear hb) (Or.inl ?_)
  rwa [(fields_newYear ha).1, (fields_newYear hb).1]

/-- A later year begins no earlier. -/
theorem newYearDay_le {a b : Int} (ha : FitsInt32 a) (hb : FitsInt32 b) (h : a ≤ b) :
    newYearDay a ≤ newYearDay b := by
  rcases Int.lt_or_eq_of_le h with hlt | rfl
  · exact Int.le_of_lt (newYearDay_lt ha hb hlt)
  · exact Int.le_refl _

/-! ## The dates of a year -/

/-- A date comes no earlier than the New Year of its year. -/
theorem newYearDay_le_absoluteDay {d : Date} (h : d.IsValid) :
    newYearDay d.year ≤ d.absoluteDay := by
  have hyear := d.fits_year
  obtain ⟨hy, hm, hd⟩ := fields_newYear hyear
  by_cases hfirst : d.month = 1 ∧ d.day = 1
  · rw [newYearDay, absoluteDay_congr hy (hm.trans hfirst.1.symm) (hd.trans hfirst.2.symm)]
  · refine Int.le_of_lt (absoluteDay_lt_of_fieldsLt (isValid_newYear hyear) h ?_)
    have hmonth := h.1
    have hday := h.2.1
    unfold FieldsLt
    omega

/-- A date comes before the New Year of every later year. -/
theorem absoluteDay_lt_newYearDay {d : Date} (h : d.IsValid) {year : Int} (hyear : FitsInt32 year)
    (hlt : d.year < year) : d.absoluteDay < newYearDay year := by
  refine absoluteDay_lt_of_fieldsLt h (isValid_newYear hyear) (Or.inl ?_)
  rwa [(fields_newYear hyear).1]

/-- The dates of a year are the days from New Year to the day before the next one. -/
theorem year_eq_iff {d : Date} (h : d.IsValid) {year : Int} (hyear : FitsInt32 year)
    (hnext : FitsInt32 (year + 1)) :
    d.year = year ↔ newYearDay year ≤ d.absoluteDay ∧ d.absoluteDay < newYearDay (year + 1) := by
  constructor
  · rintro rfl
    exact ⟨newYearDay_le_absoluteDay h, absoluteDay_lt_newYearDay h hnext (by omega)⟩
  · rintro ⟨hlow, hhigh⟩
    by_contra hne
    rcases Int.lt_or_gt_of_ne hne with hlt | hgt
    · have := absoluteDay_lt_newYearDay h hyear hlt
      omega
    · have hstart := newYearDay_le_absoluteDay h
      have hmono := newYearDay_le hnext d.fits_year (show year + 1 ≤ d.year by omega)
      omega

/-- The limits of day numbers lie far inside the years of 32 bits. -/
theorem year_bounds_of_isDayNumber {d : Date} (h : d.IsValid) (hn : IsDayNumber d.absoluteDay) :
    -900000000 ≤ d.year ∧ d.year ≤ 900000000 := by
  have hlowest : newYearDay (-900000000) < -maxAbsoluteDay := by decide
  have hhighest : maxAbsoluteDay < newYearDay 900000000 := by decide
  unfold IsDayNumber at hn
  constructor
  · by_contra hlt
    have := absoluteDay_lt_newYearDay h (show FitsInt32 (-900000000) by decide) (by omega)
    omega
  · by_contra hlt
    have hstart := newYearDay_le_absoluteDay h
    have := newYearDay_le (show FitsInt32 900000000 by decide) d.fits_year (by omega)
    omega

/-- The number of a day in its year loses nothing by being stored. -/
theorem dayOfYear_eq {d : Date} (h : d.IsValid) (hnext : FitsInt32 (d.year + 1)) :
    d.dayOfYear = d.absoluteDay - newYearDay d.year + 1 ∧ 1 ≤ d.dayOfYear ∧ d.dayOfYear ≤ 366 := by
  have hlow := newYearDay_le_absoluteDay h
  have hhigh := absoluteDay_lt_newYearDay h hnext (by omega)
  have hlen := newYearDay_succ d.fits_year hnext
  have heq : d.dayOfYear = d.absoluteDay - newYearDay d.year + 1 := by
    change wrapWord (d.absoluteDay - newYearDay d.year + 1) = _
    unfold wrapWord
    omega
  exact ⟨heq, by omega, by omega⟩

/-- December has 31 days in every year, so its dates are counted back from the next New Year. -/
theorem december_of_near_newYear {d : Date} (h : d.IsValid) (hnext : FitsInt32 (d.year + 1))
    (hnear : newYearDay (d.year + 1) ≤ d.absoluteDay + 31) :
    d.month = 12 ∧ d.absoluteDay = newYearDay (d.year + 1) + d.day - 32 := by
  have hyear := d.fits_year
  have hfirst := isCalendarDate_first d.year (show 1 ≤ (12 : Int) ∧ (12 : Int) ≤ 12 by decide)
  have hvalid := (isWritable_pack hyear hfirst).isValid
  obtain ⟨hy, hm, hd⟩ := fields_pack_of_isCalendarDate hyear hfirst
  have hmarch : (pack d.year 12 1).toMarchDay = ⟨d.year, 275⟩ := by
    rw [toMarchDay, marchYear, marchMonth, hy, hm, hd]
    rfl
  -- the first of December and the next New Year lie in one March year and in one calendar
  have hstart : (pack d.year 12 1).absoluteDay = newYearDay (d.year + 1) - 31 := by
    rw [newYearDay, absoluteDay_eq_number hvalid, absoluteDay_eq_number (isValid_newYear hnext),
      hmarch, toMarchDay_newYear hnext, show d.year + 1 - 1 = d.year by omega]
    by_cases hj : d.year < cutoverYear
    · rw [MarchDay.number_of_isJulian (Or.inl hj), MarchDay.number_of_isJulian (Or.inl hj)]
      dsimp only
      omega
    · have hlate (n : Int) (hn : 218 ≤ n) : ¬ MarchDay.IsJulian ⟨d.year, n⟩ := by
        unfold MarchDay.IsJulian
        dsimp only
        omega
      rw [MarchDay.number_of_not_isJulian (hlate 275 (by decide)),
        MarchDay.number_of_not_isJulian (hlate 306 (by decide))]
      dsimp only
      omega
  have hmonth : d.month = 12 := by
    by_contra hne
    have hbefore : FieldsLt d (pack d.year 12 1) := by
      have hrange := h.1
      unfold FieldsLt
      omega
    have := absoluteDay_lt_of_fieldsLt h hvalid hbefore
    omega
  have hcount := absoluteDay_sub_of_month hy.symm (hmonth.trans hm.symm) (by omega)
  refine ⟨hmonth, ?_⟩
  omega

/-! ## Years below 800 million -/

/-- The years below 800 million to either side fit in 32 bits. -/
theorem fits_of_bounds {year : Int} (h : -799000000 ≤ year ∧ year ≤ 799000001) :
    FitsInt32 year := by
  unfold FitsInt32
  omega

/-- New Year of such a year lies well inside the limits of day numbers. -/
theorem newYearDay_bounds {year : Int} (h : -799000000 ≤ year ∧ year ≤ 799000001) :
    -292000000000 ≤ newYearDay year ∧ newYearDay year ≤ 292000000000 := by
  rw [newYearDay_eq (fits_of_bounds h)]
  unfold gregorianYearStart julianYearStart cutoverYear
  split <;> omega

/-- The days of the years below 800 million to either side have a number. -/
theorem isDayNumber_of_year {d : Date} (h : d.IsValid)
    (hyear : -799000000 ≤ d.year ∧ d.year ≤ 799000000) : IsDayNumber d.absoluteDay := by
  have hlow := newYearDay_le_absoluteDay h
  have hhigh := absoluteDay_lt_newYearDay h (@fits_of_bounds (d.year + 1) (by omega)) (by omega)
  have hfirst := @newYearDay_bounds d.year (by omega)
  have hnext := @newYearDay_bounds (d.year + 1) (by omega)
  unfold IsDayNumber maxAbsoluteDay
  omega

/-- The dates of such a year come back from their numbers. -/
theorem ofAbsoluteDay_pack {year month day : Int} (hyear : -799000000 ≤ year ∧ year ≤ 799000000)
    (h : IsCalendarDate year month day) :
    ofAbsoluteDay (pack year month day).absoluteDay = pack year month day := by
  have hfits : FitsInt32 year := fits_of_bounds (by omega)
  have hwritable := isWritable_pack hfits h
  have hnumber := isDayNumber_of_year hwritable.isValid
    (by rwa [(fields_pack_of_isCalendarDate hfits h).1])
  rw [ofAbsoluteDay_absoluteDay hwritable.isValid hnumber, ← hwritable.eq_pack]

end Date

end CivilTime
