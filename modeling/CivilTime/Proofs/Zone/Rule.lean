import CivilTime.Proofs.Date.Year
import CivilTime.Zone.RuleReader
import Mathlib.Data.Finset.Max
import Mathlib.Data.Int.Interval

/-!
# Yearly rules and the instants of all years

A rule starts and ends daylight saving time once in every year. It is meant to be observed at an
instant if the latest of all these starts and ends was a start. A lookup, though, asks for the
start and the end of a single year, the one of the instant in standard time.

Main statements: the lookup answers what is meant if New Year before and after the instant
separates the starts and ends of the years (`recordAt_follows_instants`); a rule that ends daylight
saving time at midnight of New Year, which in standard time is still the old year, is not followed
in the hour before New Year (`not_recordAt_follows_instants`).
-/

set_option autoImplicit false

namespace CivilTime

/-! ## Starts and ends of all years -/

/-- Starts and ends of all years come in turn: between two starts there is an end, between two ends
there is a start, and no instant is both. -/
structure Alternate (start finish : Int → Int) : Prop where
  finish_between : ∀ y z, FitsInt32 y → FitsInt32 z → start y < start z →
    ∃ w, FitsInt32 w ∧ start y < finish w ∧ finish w < start z
  start_between : ∀ y z, FitsInt32 y → FitsInt32 z → finish y < finish z →
    ∃ w, FitsInt32 w ∧ finish y < start w ∧ start w < finish z
  ne : ∀ y z, FitsInt32 y → FitsInt32 z → start y ≠ finish z

/-- The latest of the starts and ends of all years up to an instant is a start. -/
def LatestIsStart (start finish : Int → Int) (instant : Int) : Prop :=
  ∃ y, FitsInt32 y ∧ start y ≤ instant ∧ ∀ z, FitsInt32 z →
    (start z ≤ instant → start z ≤ start y) ∧ (finish z ≤ instant → finish z ≤ start y)

/-- An instant that comes after all starts and ends of earlier years, and not after those of the
year or later ones. -/
def Separates (start finish : Int → Int) (instant year : Int) : Prop :=
  ∀ z, FitsInt32 z →
    (z < year → start z ≤ instant ∧ finish z ≤ instant) ∧
      (year ≤ z → instant ≤ start z ∧ instant ≤ finish z)

/-- Two sequences of instants alternate whichever of them is the first. -/
theorem Alternate.symm {start finish : Int → Int} (h : Alternate start finish) :
    Alternate finish start :=
  ⟨h.start_between, h.finish_between, fun y z hy hz heq => h.ne z y hz hy heq.symm⟩

section Order

variable {first second : Int → Int}
  (hyear : ∀ y, FitsInt32 y → first y < second y)
  (hnext : ∀ y, FitsInt32 y → FitsInt32 (y + 1) → second y < first (y + 1))

include hyear hnext

/-- Instants that follow each other from year to year do so over all years. -/
theorem second_lt_first {y z : Int} (hy : FitsInt32 y) (hz : FitsInt32 z) (h : y < z) :
    second y < first z := by
  obtain ⟨n, rfl⟩ : ∃ n : Nat, z = y + 1 + n := ⟨(z - y - 1).toNat, by omega⟩
  unfold FitsInt32 at hy hz
  induction n with
  | zero =>
    rw [Int.natCast_zero, Int.add_zero]
    exact hnext y hy (by unfold FitsInt32; omega)
  | succ n ih =>
    have hbefore := ih (by omega) (by omega)
    have hown := hyear (y + 1 + n) (by unfold FitsInt32; omega)
    have hlast := hnext (y + 1 + n) (by unfold FitsInt32; omega) (by unfold FitsInt32; omega)
    rw [show y + 1 + (n + 1 : Nat) = y + 1 + n + 1 by omega]
    omega

/-- Instants that follow each other within every year, and over New Year, alternate. -/
theorem alternate_of_order : Alternate first second := by
  have hfirst : StrictMonoOn first {y | FitsInt32 y} := fun y hy _ hz hlt =>
    Int.lt_trans (hyear y hy) (second_lt_first hyear hnext hy hz hlt)
  have hsecond : StrictMonoOn second {y | FitsInt32 y} := fun _ hy z hz hlt =>
    Int.lt_trans (second_lt_first hyear hnext hy hz hlt) (hyear z hz)
  refine ⟨fun y z hy hz hlt => ?_, fun y z hy hz hlt => ?_, fun y z hy hz heq => ?_⟩
  · have hyz := (hfirst.lt_iff_lt hy hz).1 hlt
    exact ⟨y, hy, hyear y hy, second_lt_first hyear hnext hy hz hyz⟩
  · have hyz := (hsecond.lt_iff_lt hy hz).1 hlt
    exact ⟨z, hz, second_lt_first hyear hnext hy hz hyz, hyear z hz⟩
  · rcases Int.lt_or_le z y with hzy | hyz
    · have := second_lt_first hyear hnext hz hy hzy
      omega
    · have := hfirst.monotoneOn hy hz hyz
      have := hyear z hz
      omega

end Order

/-! ## One year instead of all -/

/-- What separates the years of starts and ends separates those of ends and starts. -/
theorem Separates.symm {start finish : Int → Int} {instant year : Int}
    (h : Separates start finish instant year) : Separates finish start instant year :=
  fun z hz => ⟨fun hlt => ((h z hz).1 hlt).symm, fun hle => ((h z hz).2 hle).symm⟩

/-- Of the years before a year one has the latest start. -/
theorem exists_last_before (start : Int → Int) {year : Int} (hyear : FitsInt32 year)
    (hprevious : FitsInt32 (year - 1)) :
    ∃ last, FitsInt32 last ∧ last < year ∧
      ∀ z, FitsInt32 z → z < year → start z ≤ start last := by
  obtain ⟨last, hlast, hmax⟩ := Finset.exists_max_image (Finset.Icc (-2147483648) (year - 1)) start
    ⟨year - 1, Finset.mem_Icc.2 ⟨hprevious.1, Int.le_refl _⟩⟩
  rw [Finset.mem_Icc] at hlast
  refine ⟨last, ?_, by omega, fun z hz hlt => hmax z (Finset.mem_Icc.2 ⟨hz.1, by omega⟩)⟩
  unfold FitsInt32 at hyear ⊢
  omega

section OneYear

variable {start finish : Int → Int} {year instant newYear nextNewYear : Int}

/-- What is up to an instant of a year is of the year itself, or was over by New Year. -/
theorem year_of_le (hbefore : Separates start finish newYear year)
    (hafter : Separates start finish nextNewYear (year + 1)) (hhigh : instant < nextNewYear)
    {z : Int} (hz : FitsInt32 z) (hle : start z ≤ instant) :
    z = year ∨ (z < year ∧ start z ≤ newYear) := by
  have hold := (hbefore z hz).1
  have hnew := (hafter z hz).2
  omega

/-- Where the transitions of the year say daylight saving time, a start was the latest transition.
-/
theorem latestIsStart_of_isDaylight (h : Alternate start finish) (hyear : FitsInt32 year)
    (hprevious : FitsInt32 (year - 1)) (hbefore : Separates start finish newYear year)
    (hafter : Separates start finish nextNewYear (year + 1)) (hlow : newYear ≤ instant)
    (hhigh : instant < nextNewYear)
    (hdaylight : ZoneRule.IsDaylight (start year) (finish year) instant) :
    LatestIsStart start finish instant := by
  obtain ⟨hstart, hfinish⟩ := (hbefore year hyear).2 (Int.le_refl _)
  unfold ZoneRule.IsDaylight at hdaylight
  by_cases hstarted : start year ≤ instant
  · refine ⟨year, hyear, hstarted, fun z hz => ⟨fun hle => ?_, fun hle => ?_⟩⟩
    · rcases year_of_le hbefore hafter hhigh hz hle with rfl | ⟨-, hold⟩ <;> omega
    · rcases year_of_le hbefore.symm hafter.symm hhigh hz hle with rfl | ⟨-, hold⟩ <;> omega
  · -- the end of the year is to come, so that the last start of an earlier year counts
    obtain ⟨last, hlast, hlt, hmax⟩ := exists_last_before start hyear hprevious
    have hold := ((hbefore last hlast).1 hlt).1
    refine ⟨last, hlast, by omega, fun z hz => ⟨fun hle => ?_, fun hle => ?_⟩⟩
    · rcases year_of_le hbefore hafter hhigh hz hle with rfl | ⟨hearlier, -⟩
      · omega
      · exact hmax z hz hearlier
    · -- an end after that start would be followed by another start
      have hended := year_of_le hbefore.symm hafter.symm hhigh hz hle
      by_contra hlater
      obtain ⟨w, hw, hzw, hwy⟩ := h.start_between z year hz hyear (by omega)
      have hown := ((hafter year hyear).1 (by omega)).1
      have hnew := (hafter w hw).2
      have hwMax := hmax w hw
      have hwYear : w ≠ year := by
        rintro rfl
        omega
      omega

/-- Where a start was the latest transition, the transitions of the year say daylight saving time.
-/
theorem isDaylight_of_latestIsStart (h : Alternate start finish) (hyear : FitsInt32 year)
    (hbefore : Separates start finish newYear year)
    (hafter : Separates start finish nextNewYear (year + 1)) (hlow : newYear ≤ instant)
    (hhigh : instant < nextNewYear) (hlatest : LatestIsStart start finish instant) :
    ZoneRule.IsDaylight (start year) (finish year) instant := by
  obtain ⟨y, hy, hle, hlatest⟩ := hlatest
  obtain ⟨hstart, hfinish⟩ := (hbefore year hyear).2 (Int.le_refl _)
  have hownStart := (hlatest year hyear).1
  have hownFinish := (hlatest year hyear).2
  have hneOwn := h.ne y year hy hyear
  unfold ZoneRule.IsDaylight
  rcases year_of_le hbefore hafter hhigh hy hle with rfl | ⟨hlt, hold⟩
  · omega
  · by_cases hstarted : start year ≤ instant
    · omega
    · -- the end after the latest start is that of this year, and is to come
      obtain ⟨w, hw, hyw, hwy⟩ := h.finish_between y year hy hyear (by omega)
      have hown := ((hafter year hyear).1 (by omega)).1
      have hwLatest := (hlatest w hw).2
      have hwOld := (hbefore w hw).1
      have hwNew := (hafter w hw).2
      have hwYear : w = year := by omega
      rw [hwYear] at hwy
      omega

/-- Where the starts and ends of a year are separated from those of the other years, they alone
decide what was the latest. -/
theorem isDaylight_iff_latestIsStart (h : Alternate start finish) (hyear : FitsInt32 year)
    (hprevious : FitsInt32 (year - 1)) (hbefore : Separates start finish newYear year)
    (hafter : Separates start finish nextNewYear (year + 1)) (hlow : newYear ≤ instant)
    (hhigh : instant < nextNewYear) :
    ZoneRule.IsDaylight (start year) (finish year) instant ↔
      LatestIsStart start finish instant :=
  ⟨latestIsStart_of_isDaylight h hyear hprevious hbefore hafter hlow hhigh,
    isDaylight_of_latestIsStart h hyear hbefore hafter hlow hhigh⟩

end OneYear

/-! ## The lookup of a rule -/

namespace ZoneRule

/-- The first instant of a year in standard time. -/
def newYear (rule : ZoneRule) (year : Int) : Int :=
  Date.newYearDay year * Clock.secondsPerDay - rule.standardOffset

/-- The day of an instant in standard time. -/
def standardDay (rule : ZoneRule) (instant : Int) : Int :=
  (instant + rule.standardOffset) / Clock.secondsPerDay

/-- The year of an instant in standard time. -/
def standardYear (rule : ZoneRule) (instant : Int) : Int :=
  (Date.ofAbsoluteDay (rule.standardDay instant)).year

/-- The lookup asks for the start and the end in the year of the instant in standard time, if the
seconds of that time have 64 bits. -/
theorem recordAt_eq {rule : ZoneRule} {daylight : DaylightRule}
    (h : rule.daylight = some daylight) {instant : Int}
    (hfits : FitsInt64 (instant + rule.standardOffset)) :
    rule.recordAt instant = rule.recordInYear daylight (rule.standardYear instant) instant := by
  simp only [recordAt, h, wrapInt64_of_fits hfits, standardYear, standardDay]

/-- A time whose day is one of the calendar has seconds of 64 bits. -/
theorem fits_of_isDayNumber_standardDay {rule : ZoneRule} {instant : Int}
    (h : Date.IsDayNumber (rule.standardDay instant)) :
    FitsInt64 (instant + rule.standardOffset) := by
  unfold Date.IsDayNumber Date.maxAbsoluteDay standardDay Clock.secondsPerDay at h
  unfold FitsInt64
  omega

/-- An instant lies between the New Year of its year and the next one. -/
theorem newYear_le_and_lt {rule : ZoneRule} {instant : Int}
    (h : Date.IsDayNumber (rule.standardDay instant)) :
    rule.newYear (rule.standardYear instant) ≤ instant ∧
      instant < rule.newYear (rule.standardYear instant + 1) := by
  obtain ⟨hvalid, hcount⟩ := Date.absoluteDay_ofAbsoluteDay h
  have hyears := Date.year_bounds_of_isDayNumber hvalid (by rwa [hcount])
  have hnext : FitsInt32 (rule.standardYear instant + 1) := by
    unfold FitsInt32 standardYear
    omega
  have hmem : Date.newYearDay (rule.standardYear instant) ≤ rule.standardDay instant ∧
      rule.standardDay instant < Date.newYearDay (rule.standardYear instant + 1) := by
    rw [← hcount]
    exact (Date.year_eq_iff hvalid (Date.fits_year _) hnext).1 rfl
  have hseconds : rule.standardDay instant = (instant + rule.standardOffset) / 86400 := rfl
  unfold newYear Clock.secondsPerDay
  omega

/-- New Year of `year`, in standard time, comes after the starts and ends of daylight saving time of
all earlier years, and not after those of `year` and of later ones. -/
def NewYearSeparates (rule : ZoneRule) (daylight : DaylightRule) (year : Int) : Prop :=
  Separates (rule.startInstant daylight) (finishInstant daylight) (rule.newYear year) year

/-- A rule with daylight saving time is followed. Where its starts and ends of all years come in
turn, and New Year before and after an instant separates those of the years, the instant observes
daylight saving time exactly if the latest start or end up to it is a start, and standard time
otherwise; this holds on both sides of New Year and in either hemisphere. -/
theorem recordAt_follows_instants {rule : ZoneRule} {daylight : DaylightRule}
    (hrule : rule.daylight = some daylight) {instant : Int}
    (hday : Date.IsDayNumber (rule.standardDay instant))
    (halternate : Alternate (rule.startInstant daylight) (finishInstant daylight))
    (hbefore : rule.NewYearSeparates daylight (rule.standardYear instant))
    (hafter : rule.NewYearSeparates daylight (rule.standardYear instant + 1)) :
    (rule.recordAt instant = .daylight daylight.offset ↔
      LatestIsStart (rule.startInstant daylight) (finishInstant daylight) instant) ∧
    (rule.recordAt instant = .standard rule.standardOffset ↔
      ¬ LatestIsStart (rule.startInstant daylight) (finishInstant daylight) instant) := by
  obtain ⟨hvalid, hcount⟩ := Date.absoluteDay_ofAbsoluteDay hday
  have hyears := Date.year_bounds_of_isDayNumber hvalid (by rwa [hcount])
  obtain ⟨hlow, hhigh⟩ := newYear_le_and_lt hday
  have hprevious : FitsInt32 (rule.standardYear instant - 1) := by
    unfold FitsInt32 standardYear
    omega
  have hanswer := isDaylight_iff_latestIsStart halternate (Date.fits_year _) hprevious hbefore hafter
    hlow hhigh
  -- the two records are told apart by their flag alone
  have hne : LocalRecord.daylight daylight.offset ≠ .standard rule.standardOffset := fun heq =>
    Bool.noConfusion (congrArg LocalRecord.isDst heq)
  rw [recordAt_eq hrule (fits_of_isDayNumber_standardDay hday), recordInYear, ← hanswer]
  split
  · next hdaylight => exact ⟨iff_of_true rfl hdaylight, iff_of_false hne (not_not_intro hdaylight)⟩
  · next hstandard => exact ⟨iff_of_false hne.symm hstandard, iff_of_true rfl hstandard⟩

/-! ## Rules by the days of the year -/

/-- New Year comes at least 355 days after any New Year before it. -/
theorem newYear_add_le (rule : ZoneRule) {a b : Int} (ha : FitsInt32 a) (hb : FitsInt32 b)
    (h : a < b) : rule.newYear a + 355 * 86400 ≤ rule.newYear b := by
  have hnext : FitsInt32 (a + 1) := by
    unfold FitsInt32 at *
    omega
  have hlen := Date.newYearDay_succ ha hnext
  have hmono := Date.newYearDay_le hnext hb h
  unfold newYear Clock.secondsPerDay
  omega

/-- New Year separates the years of a rule that starts and ends daylight saving time on the first
355 days of every year. -/
theorem newYearSeparates_of_within {rule : ZoneRule} {daylight : DaylightRule}
    (h : ∀ z, FitsInt32 z →
      (rule.newYear z ≤ rule.startInstant daylight z ∧
        rule.startInstant daylight z ≤ rule.newYear z + 355 * 86400) ∧
      (rule.newYear z ≤ finishInstant daylight z ∧
        finishInstant daylight z ≤ rule.newYear z + 355 * 86400))
    {year : Int} (hyear : FitsInt32 year) : rule.NewYearSeparates daylight year := by
  intro z hz
  obtain ⟨hstart, hfinish⟩ := h z hz
  constructor
  · intro hlt
    have hlen := rule.newYear_add_le hz hyear hlt
    omega
  · intro hle
    rcases Int.lt_or_eq_of_le hle with hlt | rfl
    · have hlen := rule.newYear_add_le hyear hz hlt
      omega
    · omega

/-- A day that is counted without leap days comes at most one day later in a leap year. -/
theorem instant_withoutLeapDay_bounds (n time year offset : Int) :
    (Date.newYearDay year + n - 1) * 86400 + time - offset ≤
        RuleDate.instant ⟨.withoutLeapDay n, time⟩ year offset ∧
      RuleDate.instant ⟨.withoutLeapDay n, time⟩ year offset ≤
        (Date.newYearDay year + n) * 86400 + time - offset := by
  have heq : RuleDate.instant ⟨.withoutLeapDay n, time⟩ year offset =
      (Date.newYearDay year + (n - 1 + if IsLeapYear year ∧ 59 < n then 1 else 0)) * 86400 +
        time - offset := rfl
  rw [heq]
  split <;> omega

/-- The ends and starts of a rule come in turn if in every year the end comes before the start, and
the start before the end of the next year, be it the shortest of all years. -/
theorem alternate_withoutLeapDay {rule : ZoneRule} {daylight : DaylightRule}
    {startDay startTime finishDay finishTime : Int}
    (hstart : daylight.start = ⟨.withoutLeapDay startDay, startTime⟩)
    (hfinish : daylight.finish = ⟨.withoutLeapDay finishDay, finishTime⟩)
    (hyear : finishDay * 86400 + finishTime - daylight.offset <
      (startDay - 1) * 86400 + startTime - rule.standardOffset)
    (hnext : startDay * 86400 + startTime - rule.standardOffset <
      (finishDay + 354) * 86400 + finishTime - daylight.offset) :
    Alternate (rule.startInstant daylight) (finishInstant daylight) := by
  have hstarts (y : Int) := instant_withoutLeapDay_bounds startDay startTime y rule.standardOffset
  have hfinishes (y : Int) := instant_withoutLeapDay_bounds finishDay finishTime y daylight.offset
  refine (alternate_of_order (fun y _ => ?_) fun y hy hsucc => ?_).symm
  · rw [finishInstant, startInstant, hstart, hfinish]
    have hended := (hfinishes y).2
    have hstarted := (hstarts y).1
    omega
  · rw [finishInstant, startInstant, hstart, hfinish]
    have hstarted := (hstarts y).2
    have hended := (hfinishes (y + 1)).1
    have hlen := Date.newYearDay_succ hy hsucc
    omega

/-- Daylight saving time from the end of October to the first of March. -/
def overNewYear : DaylightRule := ⟨3600, ⟨.withoutLeapDay 300, 7200⟩, ⟨.withoutLeapDay 60, 10800⟩⟩

/-- The rule is followed on New Year's Eve of 2019, when the latest change was the start. -/
theorem recordAt_follows_instants_overNewYear :
    recordAt ⟨0, some overNewYear⟩ 1577835000 = .daylight 3600 ∧
      LatestIsStart (startInstant ⟨0, some overNewYear⟩ overNewYear) (finishInstant overNewYear)
        1577835000 := by
  have hseparates {year : Int} (hyear : FitsInt32 year) :
      NewYearSeparates ⟨0, some overNewYear⟩ overNewYear year := by
    refine newYearSeparates_of_within (fun z _ => ?_) hyear
    have hstart : (Date.newYearDay z + 300 - 1) * 86400 + 7200 - 0 ≤
          startInstant ⟨0, some overNewYear⟩ overNewYear z ∧
        startInstant ⟨0, some overNewYear⟩ overNewYear z ≤
          (Date.newYearDay z + 300) * 86400 + 7200 - 0 :=
      instant_withoutLeapDay_bounds 300 7200 z 0
    have hfinish : (Date.newYearDay z + 60 - 1) * 86400 + 10800 - 3600 ≤
          finishInstant overNewYear z ∧
        finishInstant overNewYear z ≤ (Date.newYearDay z + 60) * 86400 + 10800 - 3600 :=
      instant_withoutLeapDay_bounds 60 10800 z 3600
    have hnewYear : newYear ⟨0, some overNewYear⟩ z = Date.newYearDay z * 86400 - 0 := rfl
    omega
  have hrecord : recordAt ⟨0, some overNewYear⟩ 1577835000 = .daylight 3600 := by decide
  exact ⟨hrecord, (recordAt_follows_instants rfl (by decide)
    (alternate_withoutLeapDay rfl rfl (by decide) (by decide)) (hseparates (by decide))
    (hseparates (by decide))).1.1 hrecord⟩

/-- Daylight saving time from the first of July to midnight of New Year. The end is given in
daylight saving time, and so it comes an hour before New Year in standard time. -/
def untilNewYear : DaylightRule := ⟨3600, ⟨.withoutLeapDay 182, 0⟩, ⟨.withoutLeapDay 1, 0⟩⟩

/-- In the hour before New Year of 2020 such a rule is not followed: its starts and ends come in
turn, and the latest of them is the end for 2020, but the lookup asks for the end of 2019 and goes
on with daylight saving time. -/
theorem not_recordAt_follows_instants :
    (RuleReader.rule "AAA0BBB,J182/0,J1/0\n".toList).map Prod.fst = some ⟨0, some untilNewYear⟩ ∧
      Date.IsDayNumber (standardDay ⟨0, some untilNewYear⟩ 1577835000) ∧
      Alternate (startInstant ⟨0, some untilNewYear⟩ untilNewYear) (finishInstant untilNewYear) ∧
      recordAt ⟨0, some untilNewYear⟩ 1577835000 = .daylight 3600 ∧
      ¬ LatestIsStart (startInstant ⟨0, some untilNewYear⟩ untilNewYear)
        (finishInstant untilNewYear) 1577835000 := by
  refine ⟨by decide +kernel, by decide,
    alternate_withoutLeapDay rfl rfl (by decide) (by decide), by decide, ?_⟩
  rintro ⟨y, hy, hle, hlatest⟩
  have hended := (hlatest 2020 (by decide)).2 (by decide)
  have hend : finishInstant untilNewYear 2020 = 1577833200 := by decide
  have hthis : Date.newYearDay 2019 = 17897 := by decide
  have hnext : Date.newYearDay 2020 = 18262 := by decide
  have hstart : (Date.newYearDay y + 182 - 1) * 86400 + 0 - 0 ≤
        startInstant ⟨0, some untilNewYear⟩ untilNewYear y ∧
      startInstant ⟨0, some untilNewYear⟩ untilNewYear y ≤
        (Date.newYearDay y + 182) * 86400 + 0 - 0 :=
    instant_withoutLeapDay_bounds 182 0 y 0
  -- a start of 2019 or before comes before that end, and a later one after New Year
  rcases Int.lt_or_le y 2020 with hlt | hge
  · have := Date.newYearDay_le hy (show FitsInt32 2019 by decide) (by omega)
    omega
  · have := Date.newYearDay_le (show FitsInt32 2020 by decide) hy hge
    omega

end ZoneRule

end CivilTime
