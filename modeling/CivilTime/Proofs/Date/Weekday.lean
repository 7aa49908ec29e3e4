import CivilTime.Date.Week

/-!
# Weekdays

Remainders are taken towards zero, so the days from 1970-01-01 on and the days before it have a
formula each for their weekdays. Both are one remainder, taken downwards (`weekdayNumber_eq`). So the
weekdays are a cycle that goes on through the epoch, and the first day of the week only decides from
where on the days of the cycle are numbered (`weekdayNumber_cycle`).
-/

set_option autoImplicit false

namespace CivilTime

/-! ## The cycle -/

/-- The weekdays follow each other without a break, also before 1970. -/
theorem weekdayNumber_eq (n : Int) {firstDay : Int} (h : 0 ≤ firstDay ∧ firstDay ≤ 7) :
    weekdayNumber n firstDay = (n - firstDay + 4) % 7 + 1 := by
  unfold weekdayNumber wrapByte
  split
  · rw [Int.tmod_eq_emod_of_nonneg (by omega)]
    omega
  · have hneg : (n - firstDay - 2).tmod 7 = -((2 + firstDay - n) % 7) := by
      rw [show n - firstDay - 2 = -(2 + firstDay - n) by omega, Int.neg_tmod,
        Int.tmod_eq_emod_of_nonneg (by omega)]
    rw [hneg]
    omega

/-- The days of a week are numbered from 1 to 7. -/
theorem weekdayNumber_range (n : Int) {firstDay : Int} (h : 0 ≤ firstDay ∧ firstDay ≤ 7) :
    1 ≤ weekdayNumber n firstDay ∧ weekdayNumber n firstDay ≤ 7 := by
  rw [weekdayNumber_eq n h]
  omega

/-- So many days later, or earlier if negative, the weekday is so many further in the cycle. -/
theorem weekdayNumber_add (n days : Int) {firstDay : Int} (h : 0 ≤ firstDay ∧ firstDay ≤ 7) :
    weekdayNumber (n + days) firstDay = (weekdayNumber n firstDay - 1 + days) % 7 + 1 := by
  rw [weekdayNumber_eq (n + days) h, weekdayNumber_eq n h]
  omega

/-- The number of a weekday by that of weeks from Monday on. -/
theorem weekdayNumber_eq_of_monday (n : Int) {firstDay : Int} (h : 0 ≤ firstDay ∧ firstDay ≤ 7) :
    weekdayNumber n firstDay = (weekdayNumber n 1 - firstDay) % 7 + 1 := by
  rw [weekdayNumber_eq n h, weekdayNumber_eq n (by decide)]
  omega

/-! ## The steps in 64 bits -/

/-- The number, which has to fit in 64 bits. -/
def fitInt64? (x : Int) : Option Int := if FitsInt64 x then some x else none

/-- The number, which has to fit in a byte. -/
def fitByte? (x : Int) : Option Int := if 0 ≤ x ∧ x < 256 then some x else none

/-- What fits in 64 bits is stored as it is. -/
theorem fitInt64?_of_fits {x : Int} (h : FitsInt64 x) : fitInt64? x = some x := if_pos h

/-- What fits in a byte is stored as it is. -/
theorem fitByte?_of_fits {x : Int} (h : 0 ≤ x ∧ x < 256) : fitByte? x = some (wrapByte x) := by
  rw [fitByte?, if_pos h, wrapByte, Int.emod_eq_of_lt h.1 h.2]

/-- The number of a weekday, a step at a time. There is none if a step leaves 64 bits, or if the
number would not come into its byte as it is. -/
def weekdayNumberStored (absoluteDay firstDay : Int) : Option Int := do
  let distance ← fitInt64? (absoluteDay - firstDay)
  if 0 ≤ absoluteDay then
    let shifted ← fitInt64? (distance + 11)
    fitByte? (shifted.tmod 7 + 1)
  else
    let shifted ← fitInt64? (distance - 2)
    fitByte? (shifted.tmod 7 + 7)

/-- No step goes wrong, unless the day is one of the last or the first of 64 bits. -/
theorem weekdayNumberStored_eq {n firstDay : Int} (h : 0 ≤ firstDay ∧ firstDay ≤ 7)
    (hlow : FitsInt64 (n - 9)) (hhigh : FitsInt64 (n + 11)) :
    weekdayNumberStored n firstDay = some (weekdayNumber n firstDay) := by
  have hfits {x : Int} (hx : n - 9 ≤ x ∧ x ≤ n + 11) : FitsInt64 x := by
    unfold FitsInt64 at *
    omega
  have hseven : (0 : Int) < 7 := by decide
  unfold weekdayNumberStored weekdayNumber
  rw [fitInt64?_of_fits (hfits (by omega)), Option.bind_eq_bind, Option.bind_some]
  split
  · have hrest := Int.tmod_nonneg 7 (show 0 ≤ n - firstDay + 11 by omega)
    have hless := Int.tmod_lt_of_pos (n - firstDay + 11) hseven
    rw [fitInt64?_of_fits (hfits (by omega))]
    exact fitByte?_of_fits (by omega)
  · have hrest := Int.lt_tmod_of_pos (n - firstDay - 2) hseven
    have hless := Int.tmod_lt_of_pos (n - firstDay - 2) hseven
    rw [fitInt64?_of_fits (hfits (by omega))]
    exact fitByte?_of_fits (by omega)

/-! ## The numbers of weekdays -/

/-- Weekdays are numbered from 1 to 7, and the next day has the next number, after 7 the number 1.
Sunday is the first day of the week by both of its numbers alike, and the day with the number 1 is
the one whose number in weeks from Monday on is that of the first day. This is so on both sides of
the epoch and across it. The numbers of a day and of the next one are computed in 64 bits, as long
as nine days before and twelve days after it have a number of 64 bits. -/
theorem weekdayNumber_cycle (n firstDay : Int) (h : 0 ≤ firstDay ∧ firstDay ≤ 7) :
    (1 ≤ weekdayNumber n firstDay ∧ weekdayNumber n firstDay ≤ 7) ∧
      weekdayNumber (n + 1) firstDay = weekdayNumber n firstDay % 7 + 1 ∧
      weekdayNumber n 0 = weekdayNumber n 7 ∧
      (1 ≤ firstDay → (weekdayNumber n firstDay = 1 ↔ weekdayNumber n 1 = firstDay)) ∧
      (FitsInt64 (n - 9) → FitsInt64 (n + 12) →
        weekdayNumberStored n firstDay = some (weekdayNumber n firstDay) ∧
          weekdayNumberStored (n + 1) firstDay = some (weekdayNumber (n + 1) firstDay)) := by
  have hrange := weekdayNumber_range n h
  have hnext := weekdayNumber_add n 1 h
  have hmonday := @weekdayNumber_range n 1 (by decide)
  have hfirst := weekdayNumber_eq_of_monday n h
  have hzero := @weekdayNumber_eq_of_monday n 0 (by decide)
  have hseven := @weekdayNumber_eq_of_monday n 7 (by decide)
  refine ⟨hrange, ?_, ?_, fun hpos => ?_, fun hlow hhigh => ?_⟩
  · rwa [Int.sub_add_cancel] at hnext
  · omega
  · omega
  · unfold FitsInt64 at hlow hhigh
    exact ⟨weekdayNumberStored_eq h hlow (by unfold FitsInt64; omega),
      weekdayNumberStored_eq h (by unfold FitsInt64; omega) (by unfold FitsInt64; omega)⟩

/-- In weeks from Wednesday on, the last day before the epoch is the first of its week and the epoch
is the second. -/
theorem weekdayNumber_cycle_epoch :
    weekdayNumber (-1) 3 = 1 ∧ weekdayNumber 0 3 = 2 ∧
      weekdayNumberStored (-1) 3 = some 1 ∧ weekdayNumberStored 0 3 = some 2 := by
  obtain ⟨-, hnext, -, hfirst, hstored⟩ := weekdayNumber_cycle (-1) 3 (by decide)
  obtain ⟨hthis, hthat⟩ := hstored (by decide) (by decide)
  have hone : weekdayNumber (-1) 3 = 1 := (hfirst (by decide)).2 (by decide)
  have htwo : weekdayNumber 0 3 = 2 := by
    rw [hone] at hnext
    exact hnext
  refine ⟨hone, htwo, ?_, ?_⟩
  · rw [hthis, hone]
  · rw [← htwo]
    exact hthat

end CivilTime
