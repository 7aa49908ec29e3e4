import CivilTime.Literal.Printer
import CivilTime.Proofs.Clock.Text
import CivilTime.Proofs.Text.Position

/-!
# Announced and written lengths

The hints count what the writers write without writing it. The text of a date has as many bytes as
its hint says, and that of a time at least as many: as hours may have any number of digits, the hint
of a time has no upper bound, and that of a timestamp has none either (`lengthHints_admit_texts`).
The hint of an offset is for hours of two digits. It holds below a hundred hours, and from there on
the text is longer (`offsetMinutesLengthHint_admits_iff`).
-/

set_option autoImplicit false

namespace CivilTime

open CivilTime.Text

/-! ## Numbers -/

/-- The number of characters of a number: its sign, if it is negative, and its digits. -/
def intLength (x : Int) : Nat := (if x < 0 then 1 else 0) + (Nat.log 10 x.natAbs + 1)

/-- The length of a written number is its number of digits and a sign. -/
theorem length_writeInt (x : Int) : (writeInt x).length = intLength x := by
  unfold writeInt intLength
  split
  · rw [List.length_cons, length_digits]
    omega
  · rw [length_digits, Nat.zero_add]

/-- A written number has one byte for each character. -/
theorem byteCount_writeInt (x : Int) : byteCount (writeInt x) = (writeInt x).length := by
  have hdigits : byteCount (digits x.natAbs) = (digits x.natAbs).length :=
    byteCount_of_isDigit fun _ => isDigit_of_mem_digits
  have hminus : '-'.utf8Size = 1 := rfl
  unfold writeInt
  split
  · rw [byteCount_cons, hminus, hdigits, List.length_cons, Nat.add_comm]
  · exact hdigits

/-- A number below a hundred is two bytes. -/
theorem byteCount_padded_two {n : Nat} (h : n < 100) : byteCount (padded 2 n) = 2 := by
  rw [byteCount_padded, length_padded (by decide) h]

/-! ## Dates -/

namespace Date

/-- The number of characters of a year: four, or those of the number. -/
def yearLength (year : Int) : Nat := if HasFourDigits year then 4 else intLength year

/-- The hint for a date is the length of its year and six more. -/
theorem lengthHint_eq (d : Date) : d.lengthHint = .exact (yearLength d.year + 6) := by
  unfold lengthHint yearLength
  split
  · rfl
  · rw [length_writeInt]
    rfl

/-- The bytes of a written year are as many as the hint counts. -/
theorem byteCount_writeYear (year : Int) : byteCount (writeYear year) = yearLength year := by
  unfold writeYear yearLength
  split
  next hfour =>
    have hsize : year.toNat < 10 ^ 4 := by
      unfold HasFourDigits at hfour
      omega
    rw [byteCount_padded, length_padded (by decide) hsize]
  · rw [byteCount_writeInt, length_writeInt]

/-- Month and day have two digits, whatever the bits are. -/
theorem byteCount_write (d : Date) : byteCount d.write = yearLength d.year + 6 := by
  have hmonth : byteCount (padded 2 d.month.toNat) = 2 := by
    have := d.month_range
    exact byteCount_padded_two (by omega)
  have hday : byteCount (padded 2 d.day.toNat) = 2 := by
    have := d.day_range
    exact byteCount_padded_two (by omega)
  have hdash : '-'.utf8Size = 1 := rfl
  rw [write, byteCount_append, byteCount_append, byteCount_cons, byteCount_cons,
    byteCount_writeYear, hmonth, hday, hdash]

/-- The hint for a date is the length of its text. -/
theorem lengthHint_admits_write (d : Date) : d.lengthHint.Admits (byteCount d.write) := by
  rw [lengthHint_eq, byteCount_write]
  exact LengthHint.exact_admits _

end Date

/-! ## Times -/

namespace Clock

/-- The nanoseconds that are left over by whole seconds are zero exactly if the milliseconds and
what is below them are, whatever the sign: a fraction is announced exactly if digits of it are
written. -/
theorem hasFraction_iff (nanos : Int) (always : Bool) :
    HasFraction nanos always ↔
      always = true ∨ ¬ (nanos.natAbs / 1000000 % 1000 = 0 ∧ nanos.natAbs % 1000000 = 0) := by
  unfold HasFraction nanosPerSecond
  apply or_congr_right
  omega

/-- A written fraction has one to nine digits. -/
theorem length_writeFraction {nanos : Nat} (h : nanos < 10 ^ 9) :
    1 ≤ (writeFraction nanos).length ∧ (writeFraction nanos).length ≤ 9 := by
  constructor
  · refine List.length_pos_iff.2 ?_
    unfold writeFraction
    split
    · exact List.cons_ne_nil _ _
    · assumption
  · obtain ⟨k, hk⟩ := exists_writeFraction_append h
    have hlen := congrArg List.length hk
    rw [length_padded (by decide) h, List.length_append] at hlen
    omega

/-- A fraction is its point and one to nine digits. -/
theorem byteCount_writeFraction {nanos : Nat} (h : nanos < 10 ^ 9) :
    (LengthHint.between 2 10).Admits (byteCount ('.' :: writeFraction nanos)) := by
  have hpoint : '.'.utf8Size = 1 := rfl
  have hlen := length_writeFraction h
  rw [LengthHint.between_admits_iff, byteCount_cons, hpoint,
    byteCount_of_isDigit fun _ => isDigit_of_mem_writeFraction h]
  omega

/-- The hours take two bytes or more, and the sign one. -/
theorem le_byteCount_hourText (nanos : Int) :
    (if nanos < 0 then 3 else 2) ≤ byteCount (hourText nanos) := by
  have hwidth := width_le_length_padded 2 (nanos.natAbs / 1000000000 / 3600)
  rw [hourText, byteCount_append, byteCount_padded]
  split
  · have hminus : byteCount ['-'] = 1 := rfl
    omega
  · rw [byteCount_nil]
    omega

/-- The bytes of a time are those of its hours, six for minutes and seconds, and those of its
fraction. -/
theorem byteCount_write (nanos : Int) (always : Bool) :
    byteCount (write nanos always) =
      byteCount (hourText nanos) + 6 + byteCount (fractionText nanos always) := by
  have hminute : byteCount (padded 2 (nanos.natAbs / 1000000000 / 60 % 60)) = 2 :=
    byteCount_padded_two (by omega)
  have hsecond : byteCount (padded 2 (nanos.natAbs / 1000000000 % 60)) = 2 :=
    byteCount_padded_two (by omega)
  have hcolon : ':'.utf8Size = 1 := rfl
  rw [write_eq]
  simp only [byteCount_append, byteCount_cons, hminute, hsecond, hcolon]
  omega

/-- The hint for a time admits the length of its text. -/
theorem lengthHint_admits_write (nanos : Int) (always : Bool) :
    (lengthHint nanos always).Admits (byteCount (write nanos always)) := by
  have hwhole : (LengthHint.atLeast (if nanos < 0 then 9 else 8)).Admits
      (byteCount (hourText nanos) + 6) := by
    have hhours := le_byteCount_hourText nanos
    rw [LengthHint.atLeast_admits_iff]
    split at hhours <;> split <;> omega
  rw [byteCount_write]
  unfold lengthHint fractionText
  by_cases hfraction : HasFraction nanos always
  · simp only [if_pos hfraction]
    exact hwhole.add (byteCount_writeFraction (Nat.mod_lt _ (by decide)))
  · simp only [if_neg hfraction]
    exact hwhole

/-- The hint for a time has no upper bound. -/
theorem upper_lengthHint (nanos : Int) (always : Bool) :
    (lengthHint nanos always).upper = none := by
  unfold lengthHint
  dsimp only
  split <;> rfl

end Clock

/-! ## Offsets -/

/-- The bytes of an offset are a sign, the hours, and three for minutes where there are any. -/
theorem byteCount_writeOffsetMinutes (minutes : Int) :
    byteCount (writeOffsetMinutes minutes) =
      (padded 2 (minutes.natAbs / 60)).length + if minutes % 60 = 0 then 1 else 4 := by
  have hsign : (signOfMinutes minutes).utf8Size = 1 := by
    unfold signOfMinutes
    split <;> rfl
  have hrest : byteCount (padded 2 (minutes.natAbs % 60)) = 2 := byteCount_padded_two (by omega)
  have hcolon : ':'.utf8Size = 1 := rfl
  rw [writeOffsetMinutes, byteCount_append, byteCount_cons, hsign, byteCount_padded]
  split
  · rw [byteCount_nil]
    omega
  · rw [byteCount_cons, hcolon, hrest]
    omega

/-- An offset is announced with the fewest bytes that it can have. -/
theorem lower_offsetMinutesLengthHint_le (minutes : Int) :
    (offsetMinutesLengthHint minutes).lower ≤ byteCount (writeOffsetMinutes minutes) := by
  have hwidth := width_le_length_padded 2 (minutes.natAbs / 60)
  rw [byteCount_writeOffsetMinutes]
  unfold offsetMinutesLengthHint
  split
  · exact Nat.add_le_add_right hwidth 1
  · exact Nat.add_le_add_right hwidth 4

/-- The hint of an offset holds as long as its hours have two digits. -/
theorem offsetMinutesLengthHint_admits_iff (minutes : Int) :
    (offsetMinutesLengthHint minutes).Admits (byteCount (writeOffsetMinutes minutes)) ↔
      minutes.natAbs < 6000 := by
  have htwo : (padded 2 (minutes.natAbs / 60)).length = 2 ↔ minutes.natAbs / 60 < 10 ^ 2 :=
    length_padded_eq_iff (by decide)
  rw [byteCount_writeOffsetMinutes]
  unfold offsetMinutesLengthHint
  split
  · rw [LengthHint.exact_admits_iff]
    omega
  · rw [LengthHint.exact_admits_iff]
    omega

/-! ## Timestamps -/

/-- The hint of the time has no upper bound, and so that of the whole has none. -/
theorem timestampLengthHint_admits_write (date : Date) (nanos : Int) (always : Bool)
    (offsetMinutes : Option Int) :
    (timestampLengthHint date nanos always offsetMinutes).Admits
      (byteCount (writeTimestamp date nanos always offsetMinutes)) := by
  have hspace : (LengthHint.exact 1).Admits ' '.utf8Size := LengthHint.exact_admits 1
  have hlocal := (date.lengthHint_admits_write.add hspace).add
    (Clock.lengthHint_admits_write nanos always)
  have hnone : (date.lengthHint + .exact 1 + Clock.lengthHint nanos always).upper = none :=
    LengthHint.upper_add_eq_none _ (Clock.upper_lengthHint nanos always)
  unfold writeTimestamp timestampLengthHint
  rw [byteCount_append, byteCount_append, byteCount_cons, ← Nat.add_assoc]
  -- the hint of an offset may fail, but of it only the lower bound counts
  refine hlocal.add_of_upper_eq_none hnone ?_
  cases offsetMinutes with
  | none => exact Nat.le_refl 0
  | some minutes => exact lower_offsetMinutesLengthHint_le minutes

/-- The hint of every date, time and timestamp admits the number of bytes of its text; the one of a
date counts the digits of its year. The hint of an offset does so exactly if the offset is less than
a hundred hours, and its lower bound holds in any case. -/
theorem lengthHints_admit_texts (date : Date) (nanos : Int) (always : Bool) (minutes : Int)
    (offsetMinutes : Option Int) :
    (date.lengthHint.Admits (byteCount date.write) ∧
      date.lengthHint = .exact (Date.yearLength date.year + 6)) ∧
    (Clock.lengthHint nanos always).Admits (byteCount (Clock.write nanos always)) ∧
    ((offsetMinutesLengthHint minutes).lower ≤ byteCount (writeOffsetMinutes minutes) ∧
      ((offsetMinutesLengthHint minutes).Admits (byteCount (writeOffsetMinutes minutes)) ↔
        minutes.natAbs < 6000)) ∧
    (timestampLengthHint date nanos always offsetMinutes).Admits
      (byteCount (writeTimestamp date nanos always offsetMinutes)) := by
  refine ⟨⟨date.lengthHint_admits_write, date.lengthHint_eq⟩,
    Clock.lengthHint_admits_write nanos always, ⟨?_, ?_⟩,
    timestampLengthHint_admits_write date nanos always offsetMinutes⟩
  · exact lower_offsetMinutesLengthHint_le minutes
  · exact offsetMinutesLengthHint_admits_iff minutes

/-- A hundred hours have three digits, and the text four bytes where three are announced. -/
theorem not_offsetMinutesLengthHint_admits_hundredHours :
    byteCount (writeOffsetMinutes 6000) = 4 ∧ offsetMinutesLengthHint 6000 = .exact 3 ∧
      ¬ (offsetMinutesLengthHint 6000).Admits (byteCount (writeOffsetMinutes 6000)) := by
  refine ⟨by decide, rfl, fun hadmits => ?_⟩
  exact absurd ((offsetMinutesLengthHint_admits_iff 6000).1 hadmits) (by decide)

end CivilTime
