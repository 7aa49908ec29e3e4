import CivilTime.Clock.Basic
import CivilTime.Proofs.Date.AbsoluteDay

/-!
# Normalising keeps the moment

A day number and a number of nanoseconds of either sign stand for a moment, the nanoseconds after
1970-01-01 that they add up to. Whole days are moved by flooring, and so what they are normalised to
depends on the moment alone (`normalize_eq`): the day and the time of day that the moment is divided
into. Up to the limits of day numbers no moment is changed (`normalizeTimestamp_conserves`).
-/

set_option autoImplicit false

namespace CivilTime.Clock

open CivilTime.Date

/-- The nanoseconds from the beginning of 1970-01-01 on. -/
def moment (absoluteDay nanos : Int) : Int := absoluteDay * nanosPerDay + nanos

/-- Whole days of a moment are its day and the whole days in its nanoseconds. -/
theorem moment_div_nanosPerDay (absoluteDay nanos : Int) :
    moment absoluteDay nanos / nanosPerDay = absoluteDay + nanos / nanosPerDay := by
  unfold moment nanosPerDay
  omega

/-- What a moment has beyond whole days comes of its nanoseconds alone. -/
theorem moment_mod_nanosPerDay (absoluteDay nanos : Int) :
    moment absoluteDay nanos % nanosPerDay = nanos % nanosPerDay := by
  unfold moment nanosPerDay
  omega

/-- What is normalised is the moment, in whatever way it is given. -/
theorem normalize_eq (absoluteDay nanos : Int) :
    normalize absoluteDay nanos =
      (saturateInt64 (moment absoluteDay nanos / nanosPerDay),
        moment absoluteDay nanos % nanosPerDay) := by
  rw [moment_div_nanosPerDay, moment_mod_nanosPerDay]
  rfl

/-- A timestamp is normalized by normalizing its day and its nanoseconds. -/
theorem normalizeTimestamp_eq (absoluteDay nanos : Int) :
    normalizeTimestamp absoluteDay nanos =
      (ofAbsoluteDay (normalize absoluteDay nanos).1, (normalize absoluteDay nanos).2) := rfl

/-- One moment has one date and time of day. -/
theorem normalizeTimestamp_congr {absoluteDay nanos absoluteDay' nanos' : Int}
    (h : moment absoluteDay' nanos' = moment absoluteDay nanos) :
    normalizeTimestamp absoluteDay' nanos' = normalizeTimestamp absoluteDay nanos := by
  rw [normalizeTimestamp_eq, normalizeTimestamp_eq, normalize_eq, normalize_eq, h]

/-- A day number that is reached was not kept back at an end of its 64 bits. -/
theorem fits_of_isDayNumber_normalize {absoluteDay nanos : Int}
    (h : IsDayNumber (normalize absoluteDay nanos).1) :
    FitsInt64 (absoluteDay + nanos / nanosPerDay) := by
  unfold IsDayNumber maxAbsoluteDay normalize saturateInt64 at h
  unfold FitsInt64
  dsimp only at h
  omega

/-- Normalizing keeps the moment, as long as the day that it leads to is the number of a date. -/
theorem moment_normalizeTimestamp {absoluteDay nanos : Int}
    (h : IsDayNumber (normalize absoluteDay nanos).1) :
    moment (normalizeTimestamp absoluteDay nanos).1.absoluteDay
      (normalizeTimestamp absoluteDay nanos).2 = moment absoluteDay nanos := by
  rw [normalizeTimestamp_eq, (absoluteDay_ofAbsoluteDay h).2]
  exact total_normalize (fits_of_isDayNumber_normalize h)

/-- A day number and nanoseconds whose whole days lead to a day within the limits are normalised to
a date of the calendar and a time of day that add up to the same number of nanoseconds. Whatever
else adds up to it has the same date and time of day, and normalising these changes nothing. -/
theorem normalizeTimestamp_conserves {absoluteDay nanos : Int}
    (h : IsDayNumber (normalize absoluteDay nanos).1) :
    ∃ date time, normalizeTimestamp absoluteDay nanos = (date, time) ∧
      date.IsValid ∧ IsTimeOfDay time ∧
      date.absoluteDay * nanosPerDay + time = absoluteDay * nanosPerDay + nanos ∧
      (∀ absoluteDay' nanos',
        absoluteDay' * nanosPerDay + nanos' = absoluteDay * nanosPerDay + nanos →
          normalizeTimestamp absoluteDay' nanos' = (date, time)) ∧
      normalizeTimestamp date.absoluteDay time = (date, time) := by
  have hmoment := moment_normalizeTimestamp h
  refine ⟨(normalizeTimestamp absoluteDay nanos).1, (normalizeTimestamp absoluteDay nanos).2, rfl,
    ?_, ?_, hmoment, ?_, ?_⟩
  · exact (absoluteDay_ofAbsoluteDay h).1
  · exact isTimeOfDay_normalize absoluteDay nanos
  · intro absoluteDay' nanos' hsum
    exact normalizeTimestamp_congr hsum
  · exact normalizeTimestamp_congr hmoment

/-- A nanosecond before the first Gregorian day is the last one of the last Julian day. -/
theorem normalizeTimestamp_conserves_cutover :
    IsDayNumber (normalize (-141427) (-1)).1 ∧
      normalizeTimestamp (-141427) (-1) = (pack 1582 10 4, 86399999999999) ∧
      normalizeTimestamp (-141430) 259199999999999 = (pack 1582 10 4, 86399999999999) ∧
      normalizeTimestamp (pack 1582 10 4).absoluteDay 86399999999999 =
        (pack 1582 10 4, 86399999999999) := by
  have hrange : IsDayNumber (normalize (-141427) (-1)).1 := by decide
  have hdate : normalizeTimestamp (-141427) (-1) = (pack 1582 10 4, 86399999999999) := by decide
  obtain ⟨date, time, heq, -, -, -, hsame, hagain⟩ := normalizeTimestamp_conserves hrange
  rw [hdate] at heq
  cases heq
  exact ⟨hrange, hdate, hsame (-141430) 259199999999999 (by decide), hagain⟩

end CivilTime.Clock
