import CivilTime.Local.Fields
import CivilTime.Proofs.Date.AbsoluteDay

/-!
# Local fields and local milliseconds

Fields in the ranges of the calendar and the milliseconds since 1970-01-01 00:00 on the same wall
clock determine each other, as long as the milliseconds have 64 bits. Outside the month of the
change of calendar the carrying computation gives the same milliseconds. Both computations store
what they count in 64 bits, which changes nothing if the count has 64 bits.
-/

set_option autoImplicit false

namespace CivilTime

/-! ## Milliseconds of a day -/

namespace Clock

/-- Whole milliseconds are split into hours, minutes, seconds and milliseconds, and nothing is left.
-/
theorem split_millis {m : Int} (h : 0 ≤ m) :
    split (m * nanosPerMilli) = ⟨m / 3600000, m / 60000 % 60, m / 1000 % 60, m % 1000⟩ := by
  have hnanos : 0 ≤ m * nanosPerMilli := by
    unfold nanosPerMilli
    omega
  have htdiv : ∀ {d : Int}, (m * nanosPerMilli).tdiv d = m * nanosPerMilli / d :=
    Int.tdiv_eq_ediv_of_nonneg hnanos
  unfold split
  rw [htdiv, htdiv, htdiv, htdiv]
  unfold nanosPerMilli nanosPerSecond nanosPerMinute nanosPerHour
  rw [Int.tmod_eq_emod_of_nonneg (by omega), Int.tmod_eq_emod_of_nonneg (by omega),
    Int.tmod_eq_emod_of_nonneg (by omega)]
  congr 1 <;> omega

/-- A time of day has fewer milliseconds than a day. -/
theorem IsTimeOfDay.millis_range {nanos : Int} (h : IsTimeOfDay nanos) :
    0 ≤ nanos.tdiv nanosPerMilli ∧ nanos.tdiv nanosPerMilli < 86400000 := by
  unfold IsTimeOfDay nanosPerDay at h
  unfold nanosPerMilli
  rw [Int.tdiv_eq_ediv_of_nonneg h.1]
  omega

end Clock

namespace LocalFields

/-- Every field is in the range that the calendar has for it. -/
structure InCalendar (fields : LocalFields) : Prop where
  year : FitsInt32 fields.year
  date : IsCalendarDate fields.year fields.month fields.day
  hour : 0 ≤ fields.hour ∧ fields.hour ≤ 23
  minute : 0 ≤ fields.minute ∧ fields.minute ≤ 59
  second : 0 ≤ fields.second ∧ fields.second ≤ 59
  millisecond : 0 ≤ fields.millisecond ∧ fields.millisecond ≤ 999

/-- The strict computation accepts exactly the fields in range. -/
theorem inCalendar_iff {fields : LocalFields} :
    fields.InCalendar ↔ FitsInt32 fields.year ∧ fields.firstOverflow? = none := by
  unfold firstOverflow?
  constructor
  · intro h
    refine ⟨h.year, ?_⟩
    have hmonth := h.date.1
    rw [if_neg (not_not.2 hmonth), if_neg (not_not.2 h.date), if_neg (not_not.2 h.hour),
      if_neg (not_not.2 h.minute), if_neg (not_not.2 h.second), if_neg (not_not.2 h.millisecond)]
  · rintro ⟨hyear, h⟩
    split_ifs at h with hmonth hdate hhour hminute hsecond hmilli
    exact ⟨hyear, hdate, hhour, hminute, hsecond, hmilli⟩

/-- The fields of local milliseconds. -/
def ofMillis (millis : Int) : LocalFields :=
  ofDateMillis (.ofAbsoluteDay (millis / Clock.millisPerDay)) (millis % Clock.millisPerDay)

/-- The fields of a date and a number of milliseconds, spelled out. -/
theorem ofDateMillis_eq (date : Date) {m : Int} (h : 0 ≤ m ∧ m < 86400000) :
    ofDateMillis date m =
      ⟨date.year, date.month, date.day, m / 3600000, m / 60000 % 60, m / 1000 % 60, m % 1000⟩ := by
  have hfits : FitsInt64 (m * Clock.nanosPerMilli) := by
    unfold FitsInt64 Clock.nanosPerMilli
    omega
  unfold ofDateMillis
  rw [wrapInt64_of_fits hfits, Clock.split_millis h.1]

/-- The clock of fields in their ranges shows fewer milliseconds than a day has. -/
theorem clock_millis_range {fields : LocalFields} (h : fields.InCalendar) :
    0 ≤ fields.clock.millis ∧ fields.clock.millis < 86400000 := by
  have hhour := h.hour
  have hminute := h.minute
  have hsecond := h.second
  have hmilli := h.millisecond
  unfold clock Clock.Fields.millis
  dsimp only
  omega

/-- The date of fields in their ranges is valid, and has their year, month and day. -/
theorem date_inCalendar {fields : LocalFields} (h : fields.InCalendar) :
    fields.date.IsValid ∧ fields.date.year = fields.year ∧ fields.date.month = fields.month ∧
      fields.date.day = fields.day := by
  obtain ⟨hy, hm, hd⟩ := Date.fields_pack_of_isCalendarDate h.year h.date
  refine ⟨?_, hy, hm, hd⟩
  unfold date Date.IsValid
  rw [hy, hm, hd]
  exact h.date

/-- The fields of a valid date and a time of day are in their ranges. -/
theorem inCalendar_ofDateMillis {d : Date} (h : d.IsValid) {m : Int} (hm : 0 ≤ m ∧ m < 86400000) :
    (ofDateMillis d m).InCalendar := by
  rw [ofDateMillis_eq _ hm]
  refine ⟨Date.fits_year _, h, ?_, ?_, ?_, ?_⟩ <;> dsimp only <;> omega

/-- Milliseconds that fit in 64 bits lead to a day that has a number. -/
theorem isDayNumber_of_fits {millis : Int} (h : FitsInt64 millis) :
    Date.IsDayNumber (millis / Clock.millisPerDay) := by
  unfold FitsInt64 at h
  unfold Date.IsDayNumber Date.maxAbsoluteDay Clock.millisPerDay
  omega

/-- Fields with the year, month and day of a date have the number of its day. -/
theorem absoluteDay_date {fields : LocalFields} (h : fields.InCalendar) {d : Date}
    (hyear : fields.year = d.year) (hmonth : fields.month = d.month) (hday : fields.day = d.day) :
    fields.date.absoluteDay = d.absoluteDay := by
  obtain ⟨-, hy, hm, hd⟩ := date_inCalendar h
  exact Date.absoluteDay_congr (hy.trans hyear) (hm.trans hmonth) (hd.trans hday)

/-- The fields of a date and a time of day count the days of the date and the time. -/
theorem exactMillis_ofDateMillis {d : Date} (h : d.IsValid) {m : Int}
    (hm : 0 ≤ m ∧ m < 86400000) :
    (ofDateMillis d m).exactMillis = d.absoluteDay * Clock.millisPerDay + m := by
  have hday := absoluteDay_date (inCalendar_ofDateMillis h hm) (d := d) rfl rfl rfl
  rw [exactMillis, hday, ofDateMillis_eq _ hm]
  unfold clock Clock.Fields.millis
  dsimp only
  omega

/-- The fields of local milliseconds are in range, and have these milliseconds. -/
theorem exactMillis_ofMillis {millis : Int} (h : FitsInt64 millis) :
    (ofMillis millis).InCalendar ∧ (ofMillis millis).exactMillis = millis := by
  obtain ⟨hvalid, hnumber⟩ := Date.absoluteDay_ofAbsoluteDay (isDayNumber_of_fits h)
  have hrest : 0 ≤ millis % Clock.millisPerDay ∧ millis % Clock.millisPerDay < 86400000 := by
    unfold Clock.millisPerDay
    omega
  refine ⟨inCalendar_ofDateMillis hvalid hrest, ?_⟩
  rw [ofMillis, exactMillis_ofDateMillis hvalid hrest, hnumber]
  unfold Clock.millisPerDay
  omega

/-- Fields in range come back from their milliseconds. -/
theorem ofMillis_exactMillis {fields : LocalFields} (h : fields.InCalendar)
    (hfits : FitsInt64 fields.exactMillis) : ofMillis fields.exactMillis = fields := by
  have hnumber := isDayNumber_of_fits hfits
  obtain ⟨hvalid, hy, hm, hd⟩ := date_inCalendar h
  have hclock := clock_millis_range h
  have hday : fields.exactMillis / Clock.millisPerDay = fields.date.absoluteDay := by
    unfold exactMillis Clock.millisPerDay
    omega
  have hrest : fields.exactMillis % Clock.millisPerDay = fields.clock.millis := by
    unfold exactMillis Clock.millisPerDay
    omega
  rw [hday] at hnumber
  rw [ofMillis, hday, hrest, ofDateMillis_eq _ hclock, Date.ofAbsoluteDay_absoluteDay hvalid hnumber,
    hy, hm, hd]
  obtain ⟨hy', hm', hd'⟩ := Date.fields_pack_of_isCalendarDate h.year h.date
  rw [hy', hm', hd']
  have hhour := h.hour
  have hminute := h.minute
  have hsecond := h.second
  have hmilli := h.millisecond
  unfold clock Clock.Fields.millis
  dsimp only
  congr 1 <;> omega

/-- Outside the month of the change of calendar, carrying changes no fields in range. -/
theorem carriedMillis_eq {fields : LocalFields} (h : fields.InCalendar)
    (hoctober : ¬ (fields.year = cutoverYear ∧ fields.month = 10)) :
    fields.carriedMillis = fields.exactMillis := by
  obtain ⟨hmonth, hday, -⟩ := h.date
  have hlen := daysInMonth_bounds fields.year fields.month
  have hfirst : IsCalendarDate fields.year fields.month 1 :=
    ⟨hmonth, by omega, fun hgap => hoctober ⟨hgap.1, hgap.2.1⟩⟩
  obtain ⟨hy, hm, hd⟩ := Date.fields_pack_of_isCalendarDate h.year hfirst
  obtain ⟨-, hy', hm', hd'⟩ := date_inCalendar h
  have hyear : (fields.year * 12 + fields.month - 1) / 12 = fields.year := by omega
  have hmonth' : (fields.year * 12 + fields.month - 1) % 12 + 1 = fields.month := by omega
  unfold carriedMillis exactMillis
  dsimp only
  rw [hyear, hmonth', wrapInt32_of_fits h.year]
  have hcount := Date.absoluteDay_sub_of_month (d := fields.date)
    (e := .pack fields.year fields.month 1) (by rw [hy, hy']) (by rw [hm, hm'])
    (by rw [hy', hm']; exact hoctober)
  rw [hd, hd'] at hcount
  rw [show (Date.pack fields.year fields.month 1).absoluteDay + fields.day - 1 =
    fields.date.absoluteDay by omega]

/-- Outside the month of the change of calendar, both computations store the same milliseconds. -/
theorem lenientMillis_eq {fields : LocalFields} (h : fields.InCalendar)
    (hoctober : ¬ (fields.year = cutoverYear ∧ fields.month = 10)) :
    fields.lenientMillis = fields.strictMillis :=
  congrArg wrapInt64 (carriedMillis_eq h hoctober)

/-- Milliseconds of 64 bits are stored as they are. -/
theorem strictMillis_of_fits {fields : LocalFields} (h : FitsInt64 fields.exactMillis) :
    fields.strictMillis = fields.exactMillis :=
  wrapInt64_of_fits h

end LocalFields

end CivilTime
