import CivilTime.Proofs.Date.AbsoluteDay
import Mathlib.Order.Bounds.Defs

/-!
# Dates in the order of their numbers

Dates are ordered by the number that is stored of them. Among the dates that a user may write
this is the order of year, month and day, and it is the order in which absolute days count: the
next date is the date of the next day (`absoluteDay_counts_dates`). Nothing here depends on the
limits of the conversion from day numbers back to dates.
-/

set_option autoImplicit false

namespace CivilTime

/-! ## Dates that can be written -/

/-- A date that a user may write: its fields name a day of the calendar, in a year of 32 bits. -/
def Date.IsWritable (d : Date) : Prop :=
  ∃ year month day, FitsInt32 year ∧ ofFields year month day = .ok d

namespace Date

/-- A date that can be written is valid. -/
theorem IsWritable.isValid {d : Date} (h : d.IsWritable) : d.IsValid := by
  obtain ⟨year, month, day, hyear, hfields⟩ := h
  obtain ⟨hdate, rfl⟩ := ofFields_eq_ok_iff.1 hfields
  obtain ⟨hy, hm, hd⟩ := fields_pack_of_isCalendarDate hyear hdate
  rw [IsValid, hy, hm, hd]
  exact hdate

/-- The date that is packed from fields of the calendar can be written. -/
theorem isWritable_pack {year month day : Int} (hyear : FitsInt32 year)
    (h : IsCalendarDate year month day) : (pack year month day).IsWritable :=
  ⟨year, month, day, hyear, ofFields_eq_ok_iff.2 ⟨h, rfl⟩⟩

/-- Nothing is stored of such a date but its fields. -/
theorem IsWritable.eq_pack {d : Date} (h : d.IsWritable) : d = pack d.year d.month d.day := by
  obtain ⟨year, month, day, hyear, hfields⟩ := h
  obtain ⟨hdate, rfl⟩ := ofFields_eq_ok_iff.1 hfields
  obtain ⟨hy, hm, hd⟩ := fields_pack_of_isCalendarDate hyear hdate
  rw [hy, hm, hd]

/-- The bits of a date that can be written are its fields at their places, and no more. -/
theorem IsWritable.bits_eq {d : Date} (h : d.IsWritable) :
    d.bits = 512 * d.year + 32 * d.month + d.day := by
  have hbits := @bits_pack d.year d.month d.day d.month_range d.day_range
  rwa [← h.eq_pack] at hbits

/-! ## The order of the fields -/

/-- Year, month and day of one date come before those of another. -/
def FieldsLt (a b : Date) : Prop :=
  a.year < b.year ∨ (a.year = b.year ∧ (a.month < b.month ∨ (a.month = b.month ∧ a.day < b.day)))

/-- The stored numbers are ordered as the fields. -/
theorem lt_iff_fieldsLt {a b : Date} (ha : a.IsWritable) (hb : b.IsWritable) :
    a < b ↔ FieldsLt a b := by
  have hadays := a.day_range
  have hbdays := b.day_range
  have hamonths := a.month_range
  have hbmonths := b.month_range
  change a.bits < b.bits ↔ _
  rw [ha.bits_eq, hb.bits_eq]
  unfold FieldsLt
  omega

/-- The order of the fields is that of the March years and of the days in them. -/
theorem toMarchDay_lt_of_fieldsLt {a b : Date} (ha : a.IsValid) (hb : b.IsValid)
    (h : FieldsLt a b) :
    a.toMarchDay.year < b.toMarchDay.year ∨
      (a.toMarchDay.year = b.toMarchDay.year ∧ a.toMarchDay.day < b.toMarchDay.day) := by
  have hamonth := ha.1
  have hbmonth := hb.1
  by_cases hyear : a.marchYear < b.marchYear
  · exact Or.inl hyear
  · have hsame : a.marchYear = b.marchYear := by
      unfold FieldsLt at h
      unfold marchYear at hyear ⊢
      split_ifs at hyear ⊢ <;> omega
    refine Or.inr ⟨hsame, ?_⟩
    have hmonths : a.marchMonth < b.marchMonth ∨ (a.marchMonth = b.marchMonth ∧ a.day < b.day) := by
      unfold FieldsLt at h
      unfold marchYear at hsame
      unfold marchMonth
      split_ifs at hsame ⊢ <;> omega
    rcases hmonths with hlt | ⟨heq, hday⟩
    · -- the month of the later date starts where the one of the earlier ends, or after
      have haend := (toMarchDay_mem_month ha).2
      have hbstart := (toMarchDay_mem_month hb).1
      have hk : 0 ≤ a.marchMonth ∧ b.marchMonth < 12 :=
        ⟨(marchMonth_bounds a).1, marchMonth_lt hbmonth⟩
      rw [daysBeforeMarchMonth_eq (by omega)] at haend hbstart
      omega
    · dsimp only [toMarchDay]
      rw [heq]
      omega

/-- Of two dates, the one whose fields come first has the smaller number. -/
theorem absoluteDay_lt_of_fieldsLt {a b : Date} (ha : a.IsValid) (hb : b.IsValid)
    (h : FieldsLt a b) : a.absoluteDay < b.absoluteDay := by
  rw [absoluteDay_eq_number ha, absoluteDay_eq_number hb]
  exact MarchDay.number_lt_number (isProper_toMarchDay ha) (isProper_toMarchDay hb)
    (toMarchDay_lt_of_fieldsLt ha hb h)

/-- Dates and their days have one order. -/
theorem lt_iff_absoluteDay_lt {a b : Date} (ha : a.IsWritable) (hb : b.IsWritable) :
    a < b ↔ a.absoluteDay < b.absoluteDay := by
  constructor
  · intro h
    exact absoluteDay_lt_of_fieldsLt ha.isValid hb.isValid ((lt_iff_fieldsLt ha hb).1 h)
  · intro h
    by_contra hnot
    rcases Int.lt_or_eq_of_le (Int.not_lt.1 hnot) with hlt | heq
    · have := absoluteDay_lt_of_fieldsLt hb.isValid ha.isValid ((lt_iff_fieldsLt hb ha).1 hlt)
      omega
    · have hsame : b = a := congrArg Date.mk heq
      rw [hsame] at h
      exact Int.lt_irrefl _ h

end Date

/-! ## The next day -/

namespace MarchDay

/-- The last day of a March year is a leap day if the year that starts in January has one. -/
def lastDay (year : Int) : Int := if IsLeapYear (year + 1) then 365 else 364

/-- The day after a day. After the last Julian day the year goes on ten days further. -/
def next (p : MarchDay) : MarchDay :=
  if p.year = cutoverYear ∧ p.day = 217 then ⟨p.year, 228⟩
  else if p.day = lastDay p.year then ⟨p.year + 1, 0⟩
  else ⟨p.year, p.day + 1⟩

/-- The last day of a year that begins in March is its day 364 or 365, counted from zero. -/
theorem lastDay_bounds (year : Int) : 364 ≤ lastDay year ∧ lastDay year ≤ 365 := by
  unfold lastDay
  split <;> omega

/-- A year that begins in March has a day 365 only if it ends with a leap day. -/
theorem isLeapYear_of_lastDay {year : Int} (h : lastDay year = 365) : IsLeapYear (year + 1) := by
  by_contra hnot
  rw [lastDay, if_neg hnot] at h
  omega

/-- A day of the calendar comes no later than the last of its year. -/
theorem IsProper.le_lastDay {p : MarchDay} (h : p.IsProper) : p.day ≤ lastDay p.year := by
  have hday := h.day_range
  have hleap := h.leap
  unfold lastDay
  split
  · omega
  · next hnot =>
    have : p.day ≠ 365 := fun heq => hnot (hleap heq)
    omega

/-- The day after a day of the calendar is a day of the calendar. -/
theorem IsProper.next {p : MarchDay} (h : p.IsProper) : p.next.IsProper := by
  have hday := h.day_range
  have hlast := h.le_lastDay
  have hbounds := lastDay_bounds p.year
  have hgap := h.not_gap
  unfold MarchDay.next
  split
  · refine ⟨?_, ?_, ?_⟩
    · dsimp only
      omega
    · intro heq
      exact absurd heq (show (228 : Int) ≠ 365 by decide)
    · dsimp only
      omega
  · split
    · refine ⟨?_, ?_, ?_⟩
      · dsimp only
        omega
      · intro heq
        exact absurd heq (show (0 : Int) ≠ 365 by decide)
      · dsimp only
        omega
    · refine ⟨?_, ?_, ?_⟩
      · dsimp only
        omega
      · intro heq
        dsimp only at heq ⊢
        exact isLeapYear_of_lastDay (by omega)
      · dsimp only
        omega

/-- Up to the cutover, days are numbered by Julian years. -/
theorem number_of_isJulian {p : MarchDay} (h : p.IsJulian) :
    p.number = julianYearStart p.year + p.day - 719470 := if_pos h

/-- After the cutover, days are numbered by Gregorian years. -/
theorem number_of_not_isJulian {p : MarchDay} (h : ¬ p.IsJulian) :
    p.number = gregorianYearStart p.year + p.day - 719468 := if_neg h

/-- A March year starts on the day after the last one of the year before. -/
theorem number_succ_year (year : Int) :
    number ⟨year + 1, 0⟩ = number ⟨year, lastDay year⟩ + 1 := by
  have hlast : lastDay year = if IsLeapYear (year + 1) then 365 else 364 := rfl
  -- a year is counted in the calendar in which it ends
  by_cases hj : year < cutoverYear
  · have hend : IsJulian ⟨year, lastDay year⟩ := Or.inl hj
    have hstart : IsJulian ⟨year + 1, 0⟩ := by
      unfold IsJulian
      dsimp only
      omega
    rw [number_of_isJulian hend, number_of_isJulian hstart, julianYearStart_succ, hlast]
    unfold IsLeapYear
    dsimp only
    split_ifs <;> omega
  · have hend : ¬ IsJulian ⟨year, lastDay year⟩ := by
      unfold IsJulian
      dsimp only
      split at hlast <;> omega
    have hstart : ¬ IsJulian ⟨year + 1, 0⟩ := by
      unfold IsJulian
      dsimp only
      omega
    rw [number_of_not_isJulian hend, number_of_not_isJulian hstart, gregorianYearStart_succ, hlast]
    unfold cutoverYear at hj
    unfold IsLeapYear cutoverYear
    dsimp only
    split_ifs <;> omega

/-- The next day has the next number, also where the year or the calendar changes. -/
theorem number_next {p : MarchDay} (h : p.IsProper) : p.next.number = p.number + 1 := by
  obtain ⟨year, day⟩ := p
  have hgap := h.not_gap
  dsimp only at hgap
  unfold next
  dsimp only
  split
  · next hcut =>
    rw [hcut.1, hcut.2]
    decide
  · split
    · next hend => rw [hend, number_succ_year]
    · next hcut _ =>
      -- the day and the next one are of one calendar
      by_cases hj : IsJulian ⟨year, day⟩
      · have hnext : IsJulian ⟨year, day + 1⟩ := by
          unfold IsJulian at hj ⊢
          dsimp only at hj ⊢
          omega
        rw [number_of_isJulian hj, number_of_isJulian hnext]
        dsimp only
        omega
      · have hnext : ¬ IsJulian ⟨year, day + 1⟩ := by
          unfold IsJulian at hj ⊢
          dsimp only at hj ⊢
          omega
        rw [number_of_not_isJulian hj, number_of_not_isJulian hnext]
        dsimp only
        omega

/-- January and February belong to the next year of the calendar. -/
theorem civilYear_eq {p : MarchDay} : p.civilYear = if 306 ≤ p.day then p.year + 1 else p.year := by
  unfold civilYear month
  split_ifs <;> omega

/-- A new year of the calendar starts on the day after the last of December. -/
theorem civilYear_next {p : MarchDay} (h : p.IsProper) :
    p.next.civilYear = p.civilYear ∨
      (p.next.civilYear = p.civilYear + 1 ∧ p.civilMonth = 12 ∧ p.dayOfMonth = 31) := by
  have hday := h.day_range
  have hlast : p.day = lastDay p.year → 306 ≤ p.day := by
    unfold lastDay
    split <;> omega
  by_cases hend : p.day = 305
  · refine Or.inr ⟨?_, ?_⟩
    · have hnot : ¬ p.day = lastDay p.year := fun heq => by have := hlast heq; omega
      rw [next, if_neg (by omega), if_neg hnot, civilYear_eq, civilYear_eq]
      dsimp only
      rw [if_pos (by omega), if_neg (by omega)]
    · have hmonth : p.month = 9 := by
        unfold month
        omega
      have hstart : daysBeforeMarchMonth 9 = 275 := rfl
      rw [civilMonth, dayOfMonth, hmonth, hstart]
      exact ⟨rfl, by omega⟩
  · refine Or.inl ?_
    rw [civilYear_eq, civilYear_eq]
    unfold next
    split_ifs <;> dsimp only at * <;> omega

end MarchDay

namespace Date

/-- The last date of all. -/
def last : Date := pack 2147483647 12 31

/-- The date of the next day. -/
def next (d : Date) : Date := d.toMarchDay.next.toDate

/-- The day after a date that can be written has a year that fits, if the date is not the last of
all. -/
theorem fits_civilYear_next {d : Date} (h : d.IsWritable) (hlast : d ≠ last) :
    FitsInt32 d.toMarchDay.next.civilYear := by
  obtain ⟨hyear, hmonth, hday⟩ := civil_toMarchDay h.isValid
  have hfits := d.fits_year
  rcases MarchDay.civilYear_next (isProper_toMarchDay h.isValid) with heq | ⟨heq, hdec, h31⟩
  · rwa [heq, hyear]
  · rw [hmonth] at hdec
    rw [hday] at h31
    rw [heq, hyear]
    have hnot : d.year ≠ 2147483647 := by
      intro hmax
      apply hlast
      rw [h.eq_pack, hmax, hdec, h31, last]
    unfold FitsInt32 at *
    omega

/-- Every date but the last is followed by the date of the next day. -/
theorem absoluteDay_next {d : Date} (h : d.IsWritable) (hlast : d ≠ last) :
    d.next.IsWritable ∧ d.next.absoluteDay = d.absoluteDay + 1 := by
  have hproper := isProper_toMarchDay h.isValid
  have hyear := fits_civilYear_next h hlast
  constructor
  · rw [next, MarchDay.toDate, wrapInt32_of_fits hyear]
    exact isWritable_pack hyear (MarchDay.isCalendarDate_civil hproper.next)
  · rw [next, absoluteDay_eq_number (MarchDay.isValid_toDate hproper.next hyear),
      MarchDay.toMarchDay_toDate hproper.next hyear, MarchDay.number_next hproper,
      absoluteDay_eq_number h.isValid]

/-- Between two days in a row there is no date. -/
theorem isLeast_of_absoluteDay_eq {d s : Date} (hd : d.IsWritable) (hs : s.IsWritable)
    (h : s.absoluteDay = d.absoluteDay + 1) : IsLeast {e : Date | e.IsWritable ∧ d < e} s := by
  constructor
  · refine ⟨hs, (lt_iff_absoluteDay_lt hd hs).2 ?_⟩
    omega
  · rintro e ⟨he, hlt⟩
    have hcount := (lt_iff_absoluteDay_lt hd he).1 hlt
    have hnot : ¬ e < s := by
      rw [lt_iff_absoluteDay_lt he hs]
      omega
    exact Int.not_lt.1 hnot

/-- No date is between the last day of a month and the first of the next one. -/
theorem absoluteDay_le_of_monthEnd {a b c : Date} (ha : a.IsWritable) (hb : b.IsWritable)
    (hc : c.IsWritable) (hend : a.day = daysInMonth a.year a.month) (hfirst : b.day = 1)
    (hmonths : b.year * 12 + b.month = a.year * 12 + a.month + 1) (hac : a < c) :
    b.absoluteDay ≤ c.absoluteDay := by
  have hnot : ¬ c < b := by
    rw [lt_iff_fieldsLt ha hc] at hac
    rw [lt_iff_fieldsLt hc hb]
    obtain ⟨ham, -, -⟩ := ha.isValid
    obtain ⟨hbm, -, -⟩ := hb.isValid
    obtain ⟨hcm, hcd, -⟩ := hc.isValid
    unfold FieldsLt at hac ⊢
    rintro hcb
    -- a date with the fields of the month that ends would come after its last day
    have hyear : c.year = a.year := by omega
    have hmonth : c.month = a.month := by omega
    rw [hyear, hmonth] at hcd
    omega
  rw [lt_iff_absoluteDay_lt hc hb] at hnot
  omega

/-- The next month starts as many days later as the month has. October 1582 is shorter than the
number of its last day. -/
theorem absoluteDay_nextMonth {year month : Int} (hyear : FitsInt32 year)
    (hmonth : 1 ≤ month ∧ month ≤ 12) (hnext : FitsInt32 ((year * 12 + month) / 12))
    (hoctober : ¬ (year = cutoverYear ∧ month = 10)) :
    (pack ((year * 12 + month) / 12) ((year * 12 + month) % 12 + 1) 1).absoluteDay =
      (pack year month 1).absoluteDay + daysInMonth year month := by
  have hlen := daysInMonth_bounds year month
  have hfirst : IsCalendarDate year month 1 :=
    ⟨hmonth, by omega, fun hgap => hoctober ⟨hgap.1, hgap.2.1⟩⟩
  have hlast : IsCalendarDate year month (daysInMonth year month) :=
    ⟨hmonth, by omega, fun hgap => hoctober ⟨hgap.1, hgap.2.1⟩⟩
  have hstart : IsCalendarDate ((year * 12 + month) / 12) ((year * 12 + month) % 12 + 1) 1 := by
    have hlen' := daysInMonth_bounds ((year * 12 + month) / 12) ((year * 12 + month) % 12 + 1)
    refine ⟨by omega, by omega, fun hgap => ?_⟩
    have := hgap.2.2.1
    omega
  obtain ⟨hy, hm, hd⟩ := fields_pack_of_isCalendarDate hyear hlast
  obtain ⟨hy', hm', hd'⟩ := fields_pack_of_isCalendarDate hnext hstart
  obtain ⟨hy₁, hm₁, hd₁⟩ := fields_pack_of_isCalendarDate hyear hfirst
  have hend := isWritable_pack hyear hlast
  have hbegin := isWritable_pack hnext hstart
  have hmonths : (pack year month (daysInMonth year month)).absoluteDay -
      (pack year month 1).absoluteDay = daysInMonth year month - 1 := by
    rw [absoluteDay_sub_of_month (by rw [hy, hy₁]) (by rw [hm, hm₁]) (by rwa [hy, hm]), hd, hd₁]
  -- the day after the last of the month is the first of the next one, as no date is between them
  have hlt : (pack year month (daysInMonth year month)).absoluteDay <
      (pack ((year * 12 + month) / 12) ((year * 12 + month) % 12 + 1) 1).absoluteDay := by
    refine absoluteDay_lt_of_fieldsLt hend.isValid hbegin.isValid ?_
    unfold FieldsLt
    omega
  have hne : pack year month (daysInMonth year month) ≠ last := by
    intro heq
    rw [heq] at hy hm
    have hyear' : year = 2147483647 := hy.symm
    have hmonth' : month = 12 := hm.symm
    unfold FitsInt32 at hnext
    omega
  obtain ⟨hnextDay, hcount⟩ := absoluteDay_next hend hne
  have hle := absoluteDay_le_of_monthEnd hend hbegin hnextDay (by rw [hy, hm, hd]) hd'
    (by rw [hy, hm, hy', hm']; omega)
    ((lt_iff_absoluteDay_lt hend hnextDay).2 (by omega))
  omega

/-- Absolute days count the dates that can be written, in their order, from 1970-01-01 on. Every
date but the last has a next one, and that is one day later; 1582-10-04 is followed by 1582-10-15.
So one date comes before another exactly if its day does. -/
theorem absoluteDay_counts_dates :
    epoch.absoluteDay = 0 ∧
    (∀ d : Date, d.IsWritable → d ≠ last →
      ∃ s, IsLeast {e : Date | e.IsWritable ∧ d < e} s ∧ s.absoluteDay = d.absoluteDay + 1) ∧
    (∀ e : Date, e.IsWritable → e ≤ last) ∧
    IsLeast {e : Date | e.IsWritable ∧ pack 1582 10 4 < e} (pack 1582 10 15) ∧
    ∀ a b : Date, a.IsWritable → b.IsWritable → (a < b ↔ a.absoluteDay < b.absoluteDay) := by
  refine ⟨by decide, fun d hd hlast => ?_, fun e he => ?_, ?_,
    fun a b => lt_iff_absoluteDay_lt⟩
  · obtain ⟨hnext, hcount⟩ := absoluteDay_next hd hlast
    exact ⟨d.next, isLeast_of_absoluteDay_eq hd hnext hcount, hcount⟩
  · have hyear := e.fits_year
    have hmonth := he.isValid.1
    have hday := e.day_range
    have hbits := he.bits_eq
    have hend : last.bits = 512 * 2147483647 + 32 * 12 + 31 := by decide
    change e.bits ≤ last.bits
    unfold FitsInt32 at hyear
    omega
  · exact isLeast_of_absoluteDay_eq (isWritable_pack (by decide) (by decide))
      (isWritable_pack (by decide) (by decide)) (by decide)

/-- The last day of the year before the year zero, and a Julian leap day. -/
theorem absoluteDay_counts_dates_yearZero :
    (∃ s, IsLeast {e : Date | e.IsWritable ∧ pack (-1) 12 31 < e} s ∧
      s.absoluteDay = (pack (-1) 12 31).absoluteDay + 1) ∧
    pack 1500 2 29 ≤ last ∧
    (pack (-1) 12 31 < pack 1500 2 29 ↔
      (pack (-1) 12 31).absoluteDay < (pack 1500 2 29).absoluteDay) := by
  have hend : (pack (-1) 12 31).IsWritable := isWritable_pack (by decide) (by decide)
  have hleap : (pack 1500 2 29).IsWritable := isWritable_pack (by decide) (by decide)
  obtain ⟨-, hsucc, hlast, -, horder⟩ := absoluteDay_counts_dates
  exact ⟨hsucc _ hend (by decide), hlast _ hleap, horder _ _ hend hleap⟩

end Date

end CivilTime
