import CivilTime.Proofs.Clock.Parts
import Mathlib.Algebra.Group.Nat.Defs
import Mathlib.Tactic.SplitIfs

/-!
# What a time reads as

The parts of a text are numbers of any size with signs of their own. What is read as a time of day
is one all the same (`isTimeOfDay_of_read`), since every part is checked, and the fraction has nine
digits at most.
-/

set_option autoImplicit false

namespace CivilTime.Clock

open CivilTime.Text

/-- A fraction is less than a second. -/
theorem readFraction?_range {text : List Char} {fraction : Int}
    (h : readFraction? text = some fraction) : 0 ≤ fraction ∧ fraction < nanosPerSecond := by
  unfold readFraction? at h
  split_ifs at h with hdigits
  obtain rfl := Option.some.inj h
  have hfilled : ∀ c ∈ (text ++ List.replicate 9 '0').take 9, c.isDigit = true := by
    intro c hc
    rcases List.mem_append.1 (List.mem_of_mem_take hc) with hc | hc
    · exact List.all_eq_true.1 hdigits c hc
    · rw [List.eq_of_mem_replicate hc]
      decide
  have hlt := ofDigitChars_lt hfilled
  have hlen : ((text ++ List.replicate 9 '0').take 9).length = 9 := by
    simp
  rw [hlen] at hlt
  unfold nanosPerSecond
  omega

/-- The fraction that is read after the seconds is less than a second. -/
theorem readSeconds?_range {text : List Char} {second fraction : Int}
    (h : readSeconds? text = some (second, fraction)) :
    0 ≤ fraction ∧ fraction < nanosPerSecond := by
  unfold readSeconds? at h
  split at h
  · obtain ⟨x, -, heq⟩ := Option.map_eq_some_iff.1 h
    obtain ⟨-, rfl⟩ := Prod.mk.inj heq
    decide
  · split at h
    · next hfraction =>
      obtain ⟨-, rfl⟩ := Prod.mk.inj (Option.some.inj h)
      exact readFraction?_range hfraction
    · cases h

/-- The fraction of a time is less than a second. -/
theorem HasParts.fraction_range {text : List Char} {hour minute second fraction : Int}
    (h : HasParts text hour minute second fraction) : 0 ≤ fraction ∧ fraction < nanosPerSecond := by
  obtain ⟨-, -, -, hsecond⟩ := h
  exact readSeconds?_range hsecond

/-- Parts in range add up to less than one hour more than their hours. -/
theorem InRange.sizeOfParts_bounds {mode : Mode} {signed : Bool} {hour minute second fraction : Int}
    (h : InRange mode signed hour minute second)
    (hfraction : 0 ≤ fraction ∧ fraction < nanosPerSecond) :
    hour.natAbs * nanosPerHour ≤ sizeOfParts hour minute second fraction ∧
      sizeOfParts hour minute second fraction < (hour.natAbs + 1) * nanosPerHour := by
  have hminute := h.minute_range
  have hsecond := h.second_range
  unfold nanosPerSecond at hfraction
  unfold sizeOfParts Fields.nanos Fields.millis nanosPerMilli nanosPerHour
  dsimp only
  omega

/-- What is read as a time of day lies within one day. -/
theorem isTimeOfDay_of_read {text : List Char} {nanos : Int} (h : read .timeOfDay text = .ok nanos) :
    IsTimeOfDay nanos := by
  obtain ⟨hour, minute, second, fraction, hparts, hrange, hnanos⟩ := read_eq_ok_iff_hasParts.1 h
  obtain ⟨hpositive, hlt⟩ := hrange.day rfl
  have hbounds := hrange.sizeOfParts_bounds hparts.fraction_range
  rw [hparts.isNegative_iff] at hpositive
  rw [if_neg hpositive] at hnanos
  have hhour : 0 ≤ hour := hparts.hour_sign.2 hpositive
  unfold nanosPerHour at hbounds
  unfold IsTimeOfDay nanosPerDay
  omega

end CivilTime.Clock
