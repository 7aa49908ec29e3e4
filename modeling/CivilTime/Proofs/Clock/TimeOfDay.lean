import CivilTime.Proofs.Clock.Interval
import CivilTime.Proofs.Clock.Stored

/-!
# Times of day among the intervals

What is read as a time of day is read as the same interval, and the intervals that are so read are
those of one day whose text has no minus sign in front (`read_timeOfDay_restricts`). A minus sign
excludes zero as well, which is no different from the interval without it.
-/

set_option autoImplicit false

namespace CivilTime.Clock

open CivilTime.Text

/-- An interval stays below its limit. -/
theorem isInterval_of_read {text : List Char} {nanos : Int}
    (h : read .interval text = .ok nanos) : IsInterval nanos := by
  obtain ⟨hour, minute, second, fraction, hparts, hrange, hnanos⟩ := read_eq_ok_iff_hasParts.1 h
  have hlt := hrange.hour_lt
  have hbounds := hrange.sizeOfParts_bounds hparts.fraction_range
  unfold nanosPerHour at hbounds
  unfold IsInterval maxIntervalHours nanosPerHour
  split at hnanos <;> omega

/-- The parts of a time of day are those of an interval. -/
theorem InRange.interval {mode : Mode} {signed : Bool} {hour minute second : Int}
    (h : InRange mode signed hour minute second) : InRange .interval signed hour minute second := by
  refine ⟨h.hour_lt, h.minute_range, h.second_range, ?_⟩
  intro hmode
  cases hmode

/-- What is read as a time of day is read as the same interval, and has no minus sign. -/
theorem read_interval_of_timeOfDay {text : List Char} {nanos : Int}
    (h : read .timeOfDay text = .ok nanos) :
    read .interval text = .ok nanos ∧ text.head? ≠ some '-' := by
  obtain ⟨hour, minute, second, fraction, hparts, hrange, hnanos⟩ := read_eq_ok_iff_hasParts.1 h
  constructor
  · apply read_eq_ok_iff_hasParts.2
    exact ⟨hour, minute, second, fraction, hparts, hrange.interval, hnanos⟩
  · rw [Ne, ← hparts.isNegative_iff]
    exact (hrange.day rfl).1

/-- Without a minus sign, an interval within one day has the parts of a time of day. -/
theorem read_timeOfDay_of_interval {text : List Char} {nanos : Int}
    (h : read .interval text = .ok nanos) (hday : IsTimeOfDay nanos) (hhead : text.head? ≠ some '-') :
    read .timeOfDay text = .ok nanos := by
  obtain ⟨hour, minute, second, fraction, hparts, hrange, hnanos⟩ := read_eq_ok_iff_hasParts.1 h
  have hbounds := hrange.sizeOfParts_bounds hparts.fraction_range
  have hhour := hparts.hour_sign.2 hhead
  rw [if_neg hhead] at hnanos
  have hlt : hour < 24 := by
    unfold nanosPerHour at hbounds
    unfold IsTimeOfDay nanosPerDay at hday
    omega
  apply read_eq_ok_iff_hasParts.2
  refine ⟨hour, minute, second, fraction, hparts, ?_, by rw [if_neg hhead, hnanos]⟩
  refine ⟨hrange.hour_lt, hrange.minute_range, hrange.second_range, fun _ => ⟨?_, hlt⟩⟩
  rw [hparts.isNegative_iff]
  exact hhead

/-- Reading a time of day is reading an interval and keeping those of one day without a minus sign
in front. Intervals are shorter than two million hours, and no number on the way to one is too large
for 64 bits. A text that is not read, in either mode, is malformed, and is the message of the error.
-/
theorem read_timeOfDay_restricts (text : List Char) :
    (∀ nanos, read .timeOfDay text = .ok nanos ↔
      read .interval text = .ok nanos ∧ IsTimeOfDay nanos ∧ text.head? ≠ some '-') ∧
    (∀ nanos, read .interval text = .ok nanos → IsInterval nanos) ∧
    ∀ mode, readStored mode text = .answer (read mode text) ∧
      ∀ e, read mode text = .error e → e.kind = .malformed ∧ e.message = String.ofList text := by
  refine ⟨?_, ?_, ?_⟩
  · intro nanos
    constructor
    · intro h
      obtain ⟨hread, hhead⟩ := read_interval_of_timeOfDay h
      exact ⟨hread, isTimeOfDay_of_read h, hhead⟩
    · rintro ⟨h, hday, hhead⟩
      exact read_timeOfDay_of_interval h hday hhead
  · intro nanos h
    exact isInterval_of_read h
  · intro mode
    refine ⟨readStored_eq mode text, ?_⟩
    intro e h
    obtain ⟨-, rfl⟩ := read_eq_error_iff_read?.1 h
    exact ⟨rfl, rfl⟩

/-- A zero behind a minus sign, the longest interval, and an hour of 32 bits whose opposite has
more. -/
theorem read_timeOfDay_restricts_minusZero :
    (read .interval "-0:00:00".toList = .ok 0 ∧ IsTimeOfDay 0 ∧
      read .timeOfDay "-0:00:00".toList ≠ .ok 0) ∧
    IsInterval 7199999999999999999 ∧
    ∃ e, readStored .interval "-2147483648:00:00".toList = .answer (.error e) ∧
      e.kind = .malformed ∧ e.message = "-2147483648:00:00" := by
  refine ⟨⟨by decide, by decide, ?_⟩, ?_, ?_⟩
  · intro h
    exact (((read_timeOfDay_restricts "-0:00:00".toList).1 0).1 h).2.2 (by decide)
  · exact (read_timeOfDay_restricts "1999999:59:59.999999999".toList).2.1 _ (by decide)
  · obtain ⟨hstored, herror⟩ := (read_timeOfDay_restricts "-2147483648:00:00".toList).2.2 .interval
    have hread : read .interval "-2147483648:00:00".toList =
        .error (.malformed "-2147483648:00:00".toList) := by decide
    refine ⟨_, hstored.trans (congrArg Reading.answer hread), ?_⟩
    exact herror _ hread

end CivilTime.Clock
