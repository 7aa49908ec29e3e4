import CivilTime.Proofs.Date.DayOfYear
import CivilTime.Proofs.Date.Week
import CivilTime.Zone.Rule
import Mathlib.Data.Nat.Count

/-!
# The days that rules name

What a rule means by a day is said here in terms of the calendar alone: by a month and a day of a
common year, by a distance from New Year, or by the weekdays of a month, counted up to the day or
looked for after it. The instant of a rule date, taken back to midnight of its own clock, is the
start of the day that is meant (`instant_names`), in every year but that of the change of calendar,
on both sides of the epoch.

A weekday is first looked for where every month would have 35 days, and whole weeks are taken back
while the place lies past the end of the month; this ends from every place (`takesBack_iff`).
-/

set_option autoImplicit false

namespace CivilTime

/-! ## Weeks that are taken back -/

/-- From a place, whole weeks are taken back until it lies in a month of `length` days. -/
inductive TakesBack (length : Int) : Int → Int → Prop
  | inside {place : Int} (h : place < length) : TakesBack length place place
  | back {place result : Int} (h : length ≤ place) (rest : TakesBack length (place - 7) result) :
      TakesBack length place result

/-- As many weeks are taken back as the place lies past the end of the month, from every place and
with every length. -/
theorem takesBack_iff {length place result : Int} :
    TakesBack length place result ↔ result = place - 7 * max 0 ((place - length) / 7 + 1) := by
  constructor
  · intro h
    induction h with
    | inside h => omega
    | back h _ ih => omega
  · rintro rfl
    -- on the number of weeks that are left
    obtain ⟨n, hn⟩ : ∃ n : Nat, max 0 ((place - length) / 7 + 1) = n :=
      ⟨(max 0 ((place - length) / 7 + 1)).toNat, by omega⟩
    rw [hn]
    induction n generalizing place with
    | zero =>
      rw [Int.natCast_zero, Int.mul_zero, Int.sub_zero]
      exact .inside (by omega)
    | succ n ih =>
      have hrest := @ih (place - 7) (by omega)
      rw [show place - 7 - 7 * (n : Int) = place - 7 * ((n + 1 : Nat) : Int) by omega] at hrest
      exact .back (by omega) hrest

section Place

variable {first week length : Int} (hfirst : 0 ≤ first ∧ first < 7)

include hfirst

/-- Four weekdays of each kind fit in every month. -/
theorem placeInMonth_eq (hweek : 1 ≤ week ∧ week ≤ 4) (hlength : 28 ≤ length) :
    placeInMonth first week length = first + (week - 1) * 7 := by
  unfold placeInMonth
  dsimp only
  omega

/-- The fifth one, or the fourth where there is no fifth, lies in the last seven days. -/
theorem le_placeInMonth_five (hlength : length ≤ 31) :
    length - 7 ≤ placeInMonth first 5 length := by
  unfold placeInMonth
  dsimp only
  omega

/-- The place lies in the month, whole weeks after the first one. -/
theorem placeInMonth_mem (hweek : 1 ≤ week ∧ week ≤ 5) (hlength : 28 ≤ length) :
    (0 ≤ placeInMonth first week length ∧ placeInMonth first week length < length) ∧
      placeInMonth first week length % 7 = first := by
  unfold placeInMonth
  dsimp only
  omega

end Place

/-! ## What is meant -/

namespace RuleDay

/-- The numbers of the day are those that a rule may have. -/
def IsProper : RuleDay → Prop
  | withoutLeapDay n => 1 ≤ n ∧ n ≤ 365
  | withLeapDay n => 0 ≤ n ∧ n ≤ 365
  | weekdayOfMonth month week weekday =>
    (1 ≤ month ∧ month ≤ 12) ∧ (1 ≤ week ∧ week ≤ 5) ∧ 0 ≤ weekday ∧ weekday ≤ 6

instance : (day : RuleDay) → Decidable day.IsProper
  | withoutLeapDay _ => inferInstanceAs (Decidable (_ ∧ _))
  | withLeapDay _ => inferInstanceAs (Decidable (_ ∧ _))
  | weekdayOfMonth _ _ _ => inferInstanceAs (Decidable ((_ ∧ _) ∧ (_ ∧ _) ∧ _ ∧ _))

end RuleDay

/-- The day of the month falls on the weekday, where Sunday is zero. -/
def FallsOn (year month weekday day : Int) : Prop :=
  (Date.pack year month day).sundayWeekday - 1 = weekday

instance (year month weekday day : Int) : Decidable (FallsOn year month weekday day) :=
  inferInstanceAs (Decidable (_ = _))

/-- How many of the days of the month up to `last` fall on the weekday. -/
def weekdaysUpTo (year month weekday last : Int) : Nat :=
  Nat.count (fun place : Nat => FallsOn year month weekday (place + 1)) last.toNat

/-- The date is the one that is meant by the day of a rule in a year. -/
def RuleDay.NamesIn (year : Int) (d : Date) : RuleDay → Prop
  | withoutLeapDay n =>
    d.year = year ∧ ¬ (d.month = 2 ∧ d.day = 29) ∧
      ∀ common, Date.IsCommonYear common →
        d.month = (Date.ofAbsoluteDay (Date.newYearDay common + (n - 1))).month ∧
          d.day = (Date.ofAbsoluteDay (Date.newYearDay common + (n - 1))).day
  | withLeapDay n => d.absoluteDay = Date.newYearDay year + n
  | weekdayOfMonth month week weekday =>
    d.year = year ∧ d.month = month ∧ d.sundayWeekday - 1 = weekday ∧
      (week ≤ 4 → weekdaysUpTo year month weekday d.day = week) ∧
      (week = 5 → ∀ day, d.day < day → day ≤ daysInMonth year month →
        ¬ FallsOn year month weekday day)

/-! ## Weekdays of a month -/

/-- The days of the week, counted from Sunday, are told by the number of the day. -/
theorem Date.sundayWeekday_sub_one (d : Date) : d.sundayWeekday - 1 = (d.absoluteDay + 4) % 7 := by
  rw [sundayWeekday, weekday, weekdayNumber_eq _ (by decide)]
  omega

/-- The place, counted from zero, of the first day of a month that falls on the weekday. -/
def firstPlace (year month weekday : Int) : Int :=
  (weekday - ((Date.pack year month 1).sundayWeekday - 1)) % 7

/-- A day of the week falls on one of the first seven days of a month. -/
theorem firstPlace_range (year month weekday : Int) :
    0 ≤ firstPlace year month weekday ∧ firstPlace year month weekday < 7 := by
  unfold firstPlace
  omega

/-- The day of a month that falls on the weekday as number `week`, where number five is the last
one. -/
def numberedDay (year month week weekday : Int) : Int :=
  placeInMonth (firstPlace year month weekday) week (daysInMonth year month) + 1

/-- The day of a week that is asked for is a day of the month. -/
theorem numberedDay_mem {year month week weekday : Int} (hweek : 1 ≤ week ∧ week ≤ 5) :
    1 ≤ numberedDay year month week weekday ∧
      numberedDay year month week weekday ≤ daysInMonth year month := by
  have hplace := placeInMonth_mem (firstPlace_range year month weekday) hweek
    (daysInMonth_bounds year month).1
  unfold numberedDay
  omega

section Month

variable {year month weekday : Int} (hyear : FitsInt32 year) (hne : year ≠ cutoverYear)
  (hmonth : 1 ≤ month ∧ month ≤ 12) (hweekday : 0 ≤ weekday ∧ weekday ≤ 6)

include hyear hne hmonth hweekday

/-- Every seventh day from the first one on falls on the weekday. -/
theorem fallsOn_iff {day : Int} (hday : 1 ≤ day ∧ day ≤ daysInMonth year month) :
    FallsOn year month weekday day ↔ (day - 1) % 7 = firstPlace year month weekday := by
  rw [FallsOn, firstPlace, Date.sundayWeekday_sub_one, Date.sundayWeekday_sub_one,
    Date.absoluteDay_pack hyear hne hmonth hday]
  omega

/-- The day that is found is the day of the week that was asked for. -/
theorem fallsOn_numberedDay {week : Int} (hweek : 1 ≤ week ∧ week ≤ 5) :
    FallsOn year month weekday (numberedDay year month week weekday) := by
  rw [fallsOn_iff hyear hne hmonth hweekday (numberedDay_mem hweek)]
  have hplace := placeInMonth_mem (firstPlace_range year month weekday) hweek
    (daysInMonth_bounds year month).1
  unfold numberedDay
  omega

/-- Up to the day with the number `week`, as many days fall on the weekday. -/
theorem weekdaysUpTo_numberedDay {week : Int} (hweek : 1 ≤ week ∧ week ≤ 4) :
    weekdaysUpTo year month weekday (numberedDay year month week weekday) = week := by
  have hfirst := firstPlace_range year month weekday
  have hlength := daysInMonth_bounds year month
  have hday : numberedDay year month week weekday =
      firstPlace year month weekday + (week - 1) * 7 + 1 := by
    rw [numberedDay, placeInMonth_eq hfirst hweek hlength.1]
  -- they are the first one and the ones that come whole weeks after it
  have himage : (Finset.range (numberedDay year month week weekday).toNat).filter
      (fun place : Nat => FallsOn year month weekday (place + 1)) =
        (Finset.range week.toNat).image fun k => (firstPlace year month weekday).toNat + k * 7 := by
    ext place
    simp only [hday, Finset.mem_filter, Finset.mem_image, Finset.mem_range]
    constructor
    · rintro ⟨hmem, hfalls⟩
      rw [fallsOn_iff hyear hne hmonth hweekday (by omega)] at hfalls
      exact ⟨place / 7, by omega, by omega⟩
    · rintro ⟨k, hk, rfl⟩
      exact ⟨by omega, (fallsOn_iff hyear hne hmonth hweekday (by omega)).2 (by omega)⟩
  rw [weekdaysUpTo, Nat.count_eq_card_filter_range, himage,
    Finset.card_image_of_injective _ fun i j h => by omega, Finset.card_range]
  omega

/-- After the last one, no day of the month falls on the weekday. -/
theorem not_fallsOn_of_lt {day : Int} (hlater : numberedDay year month 5 weekday < day)
    (hday : day ≤ daysInMonth year month) : ¬ FallsOn year month weekday day := by
  have hfirst := firstPlace_range year month weekday
  have hlength := daysInMonth_bounds year month
  have hplace := placeInMonth_mem hfirst (show (1 : Int) ≤ 5 ∧ (5 : Int) ≤ 5 by decide) hlength.1
  have hlast := le_placeInMonth_five hfirst hlength.2
  unfold numberedDay at hlater
  rw [fallsOn_iff hyear hne hmonth hweekday (by omega)]
  omega

end Month

/-! ## The days of a year -/

namespace RuleDay

/-- The date of a day of a rule in a year. -/
def dateIn (day : RuleDay) (year : Int) : Date :=
  Date.ofAbsoluteDay (Date.newYearDay year + day.daysAfterNewYear year)

section Year

variable {year : Int} (hyear : -799000000 ≤ year ∧ year ≤ 799000000) (hne : year ≠ cutoverYear)

include hyear

/-- A day that is counted with the leap day is the one with that number in its year. -/
theorem namesIn_withLeapDay {n : Int} (hn : (withLeapDay n).IsProper) :
    (withLeapDay n).NamesIn year ((withLeapDay n).dateIn year) := by
  have hnewYear := @Date.newYearDay_bounds year (by omega)
  have hnumber : Date.IsDayNumber (Date.newYearDay year + n) := by
    unfold IsProper at hn
    unfold Date.IsDayNumber Date.maxAbsoluteDay
    omega
  exact (Date.absoluteDay_ofAbsoluteDay hnumber).2

include hne

/-- The day has the fields of the day `n` of a common year. -/
theorem dateIn_withoutLeapDay {d : Date} (hd : d.IsValid) (hcommon : Date.IsCommonYear d.year)
    {n : Int} (hn : d.absoluteDay = Date.newYearDay d.year + (n - 1)) :
    IsCalendarDate year d.month d.day ∧
      (withoutLeapDay n).dateIn year = Date.pack year d.month d.day := by
  have hfits : FitsInt32 year := Date.fits_of_bounds (by omega)
  obtain ⟨hdate, hcount⟩ := Date.absoluteDay_eq_of_commonYear hd hcommon hfits hne
  have hdays : Date.newYearDay year + (withoutLeapDay n).daysAfterNewYear year =
      (Date.pack year d.month d.day).absoluteDay := by
    have hleap : 59 ≤ d.absoluteDay - Date.newYearDay d.year ↔ 59 < n := by omega
    simp only [hleap] at hcount
    rw [hcount, daysAfterNewYear]
    omega
  rw [dateIn, hdays]
  exact ⟨hdate, Date.ofAbsoluteDay_pack hyear hdate⟩

/-- A day that is counted without the leap day is the one with that number in a common year. -/
theorem namesIn_withoutLeapDay {n : Int} (hn : (withoutLeapDay n).IsProper) :
    (withoutLeapDay n).NamesIn year ((withoutLeapDay n).dateIn year) := by
  have hfits : FitsInt32 year := Date.fits_of_bounds (by omega)
  unfold IsProper at hn
  have hfields : ∀ common, Date.IsCommonYear common →
      let d := Date.ofAbsoluteDay (Date.newYearDay common + (n - 1))
      ((withoutLeapDay n).dateIn year).year = year ∧
        ((withoutLeapDay n).dateIn year).month = d.month ∧
        ((withoutLeapDay n).dateIn year).day = d.day ∧ ¬ (d.month = 2 ∧ d.day = 29) := by
    intro common hcommon d
    obtain ⟨hvalid, hd, hcount⟩ := hcommon.ofAbsoluteDay_spec (k := n - 1) (by omega)
    rw [← hd] at hcommon
    obtain ⟨hdate, hdateIn⟩ := dateIn_withoutLeapDay hyear hne hvalid hcommon (by rwa [hd])
    obtain ⟨hy, hm, hday⟩ := Date.fields_pack_of_isCalendarDate hfits hdate
    rw [hdateIn]
    exact ⟨hy, hm, hday, hcommon.not_leapDay hvalid⟩
  -- any common year tells the year and that it is no leap day
  obtain ⟨hy, hm, hd, hleapDay⟩ := hfields 2021 ⟨by decide, by decide⟩
  rw [← hm, ← hd] at hleapDay
  refine ⟨hy, hleapDay, fun common hcommon => ?_⟩
  obtain ⟨-, hm, hd, -⟩ := hfields common hcommon
  exact ⟨hm, hd⟩

/-- A day of the week in a month is found as the day with its number. -/
theorem dateIn_weekdayOfMonth {month week : Int} (weekday : Int) (hmonth : 1 ≤ month ∧ month ≤ 12)
    (hweek : 1 ≤ week ∧ week ≤ 5) :
    (weekdayOfMonth month week weekday).dateIn year =
      Date.pack year month (numberedDay year month week weekday) := by
  have hfits : FitsInt32 year := Date.fits_of_bounds (by omega)
  have hday := @numberedDay_mem year month week weekday hweek
  have hdays : Date.newYearDay year + (weekdayOfMonth month week weekday).daysAfterNewYear year =
      (Date.pack year month (numberedDay year month week weekday)).absoluteDay := by
    rw [Date.absoluteDay_pack hfits hne hmonth hday, daysAfterNewYear, numberedDay,
      firstPlace, Date.newYearDay]
    omega
  rw [dateIn, hdays]
  exact Date.ofAbsoluteDay_pack hyear (Date.isCalendarDate_of_ne_cutoverYear hne hmonth hday)

/-- A day of the week in a month is found where the rule says, and in the last week that has it for
week five. -/
theorem namesIn_weekdayOfMonth {month week weekday : Int}
    (h : (weekdayOfMonth month week weekday).IsProper) :
    (weekdayOfMonth month week weekday).NamesIn year
      ((weekdayOfMonth month week weekday).dateIn year) := by
  obtain ⟨hmonth, hweek, hweekday⟩ := h
  have hfits : FitsInt32 year := Date.fits_of_bounds (by omega)
  obtain ⟨hy, hm, hd⟩ := Date.fields_pack_of_isCalendarDate hfits
    (Date.isCalendarDate_of_ne_cutoverYear hne hmonth (@numberedDay_mem year month week weekday hweek))
  rw [dateIn_weekdayOfMonth hyear hne weekday hmonth hweek]
  refine ⟨hy, hm, fallsOn_numberedDay hfits hne hmonth hweekday hweek, ?_, ?_⟩
  · intro hcounted
    rw [hd]
    exact weekdaysUpTo_numberedDay hfits hne hmonth hweekday ⟨hweek.1, hcounted⟩
  · rintro rfl day hlater hday
    rw [hd] at hlater
    exact not_fallsOn_of_lt hfits hne hmonth hweekday hlater hday

/-- Every day that a rule may have is the one that is meant by it. -/
theorem namesIn_dateIn {day : RuleDay} (h : day.IsProper) : day.NamesIn year (day.dateIn year) := by
  cases day with
  | withoutLeapDay n => exact namesIn_withoutLeapDay hyear hne h
  | withLeapDay n => exact namesIn_withLeapDay hyear h
  | weekdayOfMonth month week weekday => exact namesIn_weekdayOfMonth hyear hne h

end Year

example : (withoutLeapDay 60).dateIn 2020 = .pack 2020 3 1 ∧
    (withoutLeapDay 60).dateIn 2021 = .pack 2021 3 1 := by decide

end RuleDay

namespace RuleDate

/-- Without its time, and on its own clock, a rule date is midnight of a day. -/
theorem midnight_eq (date : RuleDate) (year offset : Int) :
    date.instant year offset - date.time + offset =
      (Date.newYearDay year + date.day.daysAfterNewYear year) * Clock.secondsPerDay := by
  unfold instant Date.newYearDay
  omega

/-- A rule names the right day. In every year but that of the change of calendar, for every day that
a rule may have, every time and every offset, the instant is that time after midnight of the day
that is meant, on a clock at that offset; and the search for a weekday ends wherever it starts. -/
theorem instant_names (date : RuleDate) {year : Int} (offset : Int)
    (hyear : -799000000 ≤ year ∧ year ≤ 799000000) (hne : year ≠ cutoverYear)
    (hday : date.day.IsProper) :
    let midnight := date.instant year offset - date.time + offset
    Clock.secondsPerDay ∣ midnight ∧
      date.day.NamesIn year (Date.ofAbsoluteDay (midnight / Clock.secondsPerDay)) ∧
      ∀ first week length place, TakesBack length (first + (week - 1) * 7) place ↔
        place = placeInMonth first week length := by
  intro midnight
  have hmidnight : midnight = _ := date.midnight_eq year offset
  refine ⟨?_, ?_, fun first week length place => takesBack_iff⟩
  · rw [hmidnight]
    exact Int.dvd_mul_left _ _
  · rw [hmidnight, Int.mul_ediv_cancel _ (by decide)]
    exact RuleDay.namesIn_dateIn hyear hne hday

/-- The last Sunday of October 2021, at one o'clock UTC. -/
theorem instant_names_lastSunday :
    RuleDay.NamesIn 2021 (Date.pack 2021 10 31) (.weekdayOfMonth 10 5 0) := by
  have hdate : Date.ofAbsoluteDay ((RuleDate.instant ⟨.weekdayOfMonth 10 5 0, 3600⟩ 2021 0 -
      3600 + 0) / Clock.secondsPerDay) = Date.pack 2021 10 31 := by decide
  rw [← hdate]
  exact (instant_names ⟨.weekdayOfMonth 10 5 0, 3600⟩ 0 (by decide) (by decide) (by decide)).2.1

end RuleDate

end CivilTime
