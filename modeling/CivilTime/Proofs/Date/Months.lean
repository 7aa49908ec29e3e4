import CivilTime.Date.Months
import CivilTime.Proofs.Date.Order

/-!
# Months later

Months are counted on from any month, also over the year zero. Adding months to a date changes the
number of its month by just so many, and keeps its day where the new month has it
(`addMonths_exact_monotone`). The order of dates is kept by it: two sums in one month come from days in
their order, and shortening both to the length of the month, or moving them out of the days that the
change of calendar left out, does not change that order.
-/

set_option autoImplicit false

namespace CivilTime.Date

/-- The number of the month of a date among the months of all years. -/
def monthNumber (d : Date) : Int := 12 * d.year + d.month

/-- The year that many months later. -/
def yearAfter (d : Date) (months : Int) : Int := (d.monthNumber - 1 + months) / 12

/-- The month that many months later. -/
def monthAfter (d : Date) (months : Int) : Int := (d.monthNumber - 1 + months) % 12 + 1

/-- The day of the date, or the last one of the month that many months later. -/
def dayAfter (d : Date) (months : Int) : Int :=
  min d.day (daysInMonth (d.yearAfter months) (d.monthAfter months))

/-- The change of calendar left out the day that many months later. -/
def IsLeftOut (d : Date) (months : Int) : Prop :=
  InCutoverGap (d.yearAfter months) (d.monthAfter months) (d.dayAfter months)

instance (d : Date) (months : Int) : Decidable (d.IsLeftOut months) :=
  inferInstanceAs (Decidable (InCutoverGap _ _ _))

/-- The month that months lead to is one of twelve. -/
theorem monthAfter_bounds (d : Date) (months : Int) :
    1 ≤ d.monthAfter months ∧ d.monthAfter months ≤ 12 := by
  unfold monthAfter
  omega

/-- Adding months to a date adds them to the number of its month. -/
theorem monthNumber_after (d : Date) (months : Int) :
    12 * d.yearAfter months + d.monthAfter months = d.monthNumber + months := by
  unfold yearAfter monthAfter
  omega

/-- The day that months lead to is a day of the month that they lead to. -/
theorem dayAfter_bounds {d : Date} (h : d.IsValid) (months : Int) :
    1 ≤ d.dayAfter months ∧
      d.dayAfter months ≤ daysInMonth (d.yearAfter months) (d.monthAfter months) := by
  have hday := h.2.1
  have hlen := daysInMonth_bounds (d.yearAfter months) (d.monthAfter months)
  unfold dayAfter
  omega

/-! ## Sums -/

/-- A sum has the day in its month, unless there is no such day. -/
theorem addMonths_eq {d : Date} (h : d.IsValid) {months : Int} (hyear : FitsInt32 (d.yearAfter months)) :
    d.addMonths months =
      if d.IsLeftOut months then firstGregorian
      else pack (d.yearAfter months) (d.monthAfter months) (d.dayAfter months) := by
  have hmonth := monthAfter_bounds d months
  have hday := dayAfter_bounds h months
  have hlen := daysInMonth_bounds (d.yearAfter months) (d.monthAfter months)
  have hvalid : (pack (d.yearAfter months) (d.monthAfter months) (d.dayAfter months)).IsValid ↔
      ¬ d.IsLeftOut months := by
    rw [IsValid, year_pack hyear (by omega) (by omega), month_pack (by omega) (by omega),
      day_pack (by omega) (by omega)]
    constructor
    · intro hdate
      exact hdate.2.2
    · intro hgap
      exact ⟨hmonth, hday, hgap⟩
  have hsum : d.addMonths months =
      if (pack (d.yearAfter months) (d.monthAfter months) (d.dayAfter months)).IsValid then
        pack (d.yearAfter months) (d.monthAfter months) (d.dayAfter months)
      else firstGregorian := by
    rw [dayAfter, ← wrapInt32_of_fits hyear, yearAfter, monthAfter, monthNumber, Int.mul_comm]
    rfl
  rw [hsum]
  by_cases hgap : d.IsLeftOut months
  · rw [if_neg fun hdate => hvalid.1 hdate hgap, if_pos hgap]
  · rw [if_pos (hvalid.2 hgap), if_neg hgap]

/-- The fields of a sum. Where its day was left out, it has the first one that was not. -/
theorem addMonths_spec {d : Date} (h : d.IsValid) {months : Int}
    (hyear : FitsInt32 (d.yearAfter months)) :
    (d.addMonths months).IsWritable ∧
      (d.addMonths months).year = d.yearAfter months ∧
      (d.addMonths months).month = d.monthAfter months ∧
      (d.addMonths months).day = if d.IsLeftOut months then 15 else d.dayAfter months := by
  rw [addMonths_eq h hyear]
  split
  · next hgap =>
    obtain ⟨hgapYear, hgapMonth, -⟩ := hgap
    rw [hgapYear, hgapMonth]
    exact ⟨isWritable_pack (by decide) (by decide), rfl, rfl, rfl⟩
  · next hgap =>
    have hdate : IsCalendarDate (d.yearAfter months) (d.monthAfter months) (d.dayAfter months) :=
      ⟨monthAfter_bounds d months, dayAfter_bounds h months, hgap⟩
    exact ⟨isWritable_pack hyear hdate, fields_pack_of_isCalendarDate hyear hdate⟩

/-! ## Order -/

/-- Of two dates in order, the later one is in a later month, or in the same and not on an earlier
day. -/
theorem le_iff_monthNumber {a b : Date} (ha : a.IsWritable) (hb : b.IsWritable) :
    a ≤ b ↔ a.monthNumber < b.monthNumber ∨ (a.monthNumber = b.monthNumber ∧ a.day ≤ b.day) := by
  have hamonth := ha.isValid.1
  have hbmonth := hb.isValid.1
  have hle : a ≤ b ↔ ¬ b < a := Int.not_lt.symm
  rw [hle, lt_iff_fieldsLt hb ha]
  unfold FieldsLt monthNumber
  omega

/-- A later day stays later in a month that is too short for it, and behind the days left out. -/
theorem day_addMonths_le {a b : Date} (ha : a.IsValid) (hb : b.IsValid) {n m : Int}
    (hyear : FitsInt32 (a.yearAfter n)) (hyear' : FitsInt32 (b.yearAfter m))
    (hmonths : a.monthNumber + n = b.monthNumber + m) (hday : a.day ≤ b.day) :
    (a.addMonths n).day ≤ (b.addMonths m).day := by
  have hafter := monthNumber_after a n
  have hafter' := monthNumber_after b m
  have hrange := monthAfter_bounds a n
  have hrange' := monthAfter_bounds b m
  have hsameYear : b.yearAfter m = a.yearAfter n := by omega
  have hsameMonth : b.monthAfter m = a.monthAfter n := by omega
  obtain ⟨-, -, -, hsum⟩ := addMonths_spec ha hyear
  obtain ⟨-, -, -, hsum'⟩ := addMonths_spec hb hyear'
  have hle : a.dayAfter n ≤ b.dayAfter m := by
    unfold dayAfter
    rw [hsameYear, hsameMonth]
    omega
  rw [hsum, hsum']
  unfold IsLeftOut InCutoverGap
  split_ifs <;> omega

/-- Adding months is monotone in the date and in the months, as long as the years fit. -/
theorem addMonths_le_addMonths {a b : Date} (ha : a.IsWritable) (hb : b.IsWritable) {n m : Int}
    (hyear : FitsInt32 (a.yearAfter n)) (hyear' : FitsInt32 (b.yearAfter m)) (hab : a ≤ b)
    (hnm : n ≤ m) : a.addMonths n ≤ b.addMonths m := by
  obtain ⟨hwritable, hsumYear, hsumMonth, -⟩ := addMonths_spec ha.isValid hyear
  obtain ⟨hwritable', hsumYear', hsumMonth', -⟩ := addMonths_spec hb.isValid hyear'
  have hmonths : (a.addMonths n).monthNumber = a.monthNumber + n := by
    rw [monthNumber, hsumYear, hsumMonth, monthNumber_after]
  have hmonths' : (b.addMonths m).monthNumber = b.monthNumber + m := by
    rw [monthNumber, hsumYear', hsumMonth', monthNumber_after]
  apply (le_iff_monthNumber hwritable hwritable').2
  rw [hmonths, hmonths']
  rcases (le_iff_monthNumber ha hb).1 hab with hlt | ⟨heq, hday⟩
  · left
    omega
  · by_cases hsame : n = m
    · right
      have hnumber : a.monthNumber + n = b.monthNumber + m := by omega
      exact ⟨hnumber, day_addMonths_le ha.isValid hb.isValid hyear hyear' hnumber hday⟩
    · left
      omega

/-- A date and a number of months have a sum wherever the month it falls in belongs to a year of 32
bits. The sum is a date of just that month, and has the day of the date or the last one of the
month; if the change of calendar left that day out, the sum is the first day after it. Later dates
and more months never give an earlier sum. -/
theorem addMonths_exact_monotone :
    (∀ (a : Date) (n : Int), a.IsValid → FitsInt32 ((12 * a.year + a.month - 1 + n) / 12) →
      (a.addMonths n).IsValid ∧
      12 * (a.addMonths n).year + (a.addMonths n).month = 12 * a.year + a.month + n ∧
      if InCutoverGap (a.addMonths n).year (a.addMonths n).month
          (min a.day (daysInMonth (a.addMonths n).year (a.addMonths n).month)) then
        a.addMonths n = pack 1582 10 15
      else (a.addMonths n).day =
        min a.day (daysInMonth (a.addMonths n).year (a.addMonths n).month)) ∧
    ∀ (a b : Date) (n m : Int), a.IsWritable → b.IsWritable → a ≤ b → n ≤ m →
      FitsInt32 ((12 * a.year + a.month - 1 + n) / 12) →
      FitsInt32 ((12 * b.year + b.month - 1 + m) / 12) → a.addMonths n ≤ b.addMonths m := by
  refine ⟨?_, ?_⟩
  · intro a n ha hyear
    obtain ⟨hwritable, hsumYear, hsumMonth, hsumDay⟩ := addMonths_spec ha hyear
    have hsum := addMonths_eq ha hyear
    refine ⟨hwritable.isValid, ?_, ?_⟩
    · rw [hsumYear, hsumMonth]
      exact monthNumber_after a n
    · rw [hsumYear, hsumMonth]
      change if a.IsLeftOut n then _ else _ = a.dayAfter n
      split
      · next hgap =>
        rw [hsum, if_pos hgap]
        rfl
      · next hgap => rw [hsumDay, if_neg hgap]
  · intro a b n m ha hb hab hnm hyear hyear'
    exact addMonths_le_addMonths ha hb hyear hyear' hab hnm

/-- Over the year zero to a shorter month, into the days left out, and two sums that are the same
last day of a February. -/
theorem addMonths_exact_monotone_leftOut :
    12 * ((pack 1 3 31).addMonths (-13)).year + ((pack 1 3 31).addMonths (-13)).month = 12 * 1 + 3 - 13 ∧
    (pack 1582 9 10).addMonths 1 = pack 1582 10 15 ∧
    (pack 2007 4 29).addMonths (-2) ≤ (pack 2007 4 30).addMonths (-2) := by
  refine ⟨?_, ?_, ?_⟩
  · exact (addMonths_exact_monotone.1 (pack 1 3 31) (-13) (by decide) (by decide)).2.1
  · have hsum := (addMonths_exact_monotone.1 (pack 1582 9 10) 1 (by decide) (by decide)).2.2
    rwa [if_pos (by decide)] at hsum
  · exact addMonths_exact_monotone.2 _ _ _ _ (isWritable_pack (by decide) (by decide))
      (isWritable_pack (by decide) (by decide)) (by decide) (by decide) (by decide) (by decide)

/-- Past the last year of 32 bits the sum starts over from the first one. -/
example : last.addMonths 1 = pack (-2147483648) 1 31 := by decide

end CivilTime.Date
