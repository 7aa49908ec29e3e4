/-!
# Fixed widths

Stored and exchanged numbers have fixed widths: a year has 32 bits, a month or a weekday one
byte, an ordinal day two bytes, an instant and local milliseconds 64 bits. Arithmetic on `Int` is
exact; the functions below are applied where a result is stored, so that a sum or a product that
does not fit comes back at the other end of its width. A count of days stays at the end instead.

A machine that stops at such a sum is not described. It agrees with this library wherever the
exact result fits, which is what a theorem says that supposes `FitsInt64` of it.
-/

set_option autoImplicit false

namespace CivilTime

/-- The representative of `x` modulo `2 ^ 32` in `[-2 ^ 31, 2 ^ 31)`. -/
def wrapInt32 (x : Int) : Int := Int.bmod x 4294967296

/-- The representative of `x` modulo `2 ^ 64` in `[-2 ^ 63, 2 ^ 63)`. -/
def wrapInt64 (x : Int) : Int := Int.bmod x 18446744073709551616

/-- The representative of `x` modulo `2 ^ 8` in `[0, 2 ^ 8)`. -/
def wrapByte (x : Int) : Int := x % 256

/-- The representative of `x` modulo `2 ^ 16` in `[0, 2 ^ 16)`. -/
def wrapWord (x : Int) : Int := x % 65536

/-- The numbers of a signed 32-bit field. -/
def FitsInt32 (x : Int) : Prop := -2147483648 ≤ x ∧ x ≤ 2147483647

instance (x : Int) : Decidable (FitsInt32 x) :=
  inferInstanceAs (Decidable (_ ∧ _))

/-- The numbers of a signed 64-bit field. -/
def FitsInt64 (x : Int) : Prop := -9223372036854775808 ≤ x ∧ x ≤ 9223372036854775807

instance (x : Int) : Decidable (FitsInt64 x) :=
  inferInstanceAs (Decidable (_ ∧ _))

/-- The number of a signed 64-bit field closest to `x`. -/
def saturateInt64 (x : Int) : Int := max (-9223372036854775808) (min 9223372036854775807 x)

/-- A number that fits is its own representative. -/
theorem wrapInt32_of_fits {x : Int} (h : FitsInt32 x) : wrapInt32 x = x := by
  unfold FitsInt32 at h
  unfold wrapInt32
  rw [Int.bmod_def]
  omega

/-- Representatives fit. -/
theorem fits_wrapInt32 (x : Int) : FitsInt32 (wrapInt32 x) := by
  unfold FitsInt32 wrapInt32
  rw [Int.bmod_def]
  omega

/-- A number of 64 bits is its own representative. -/
theorem wrapInt64_of_fits {x : Int} (h : FitsInt64 x) : wrapInt64 x = x := by
  unfold FitsInt64 at h
  unfold wrapInt64
  rw [Int.bmod_def]
  omega

/-- Representatives of 64 bits fit. -/
theorem fits_wrapInt64 (x : Int) : FitsInt64 (wrapInt64 x) := by
  unfold FitsInt64 wrapInt64
  rw [Int.bmod_def]
  omega

/-- In a sum, a representative can stand for its number. -/
theorem wrapInt64_add (x y : Int) : wrapInt64 (wrapInt64 x + y) = wrapInt64 (x + y) :=
  Int.bmod_add_bmod

/-- In a difference, a representative can stand for its number. -/
theorem wrapInt64_sub (x y : Int) : wrapInt64 (wrapInt64 x - y) = wrapInt64 (x - y) :=
  Int.bmod_sub_bmod

/-- A number that fits comes back when what was taken from it is added again, whether or not the
difference fitted. -/
theorem wrapInt64_sub_add {x : Int} (h : FitsInt64 x) (y : Int) :
    wrapInt64 (wrapInt64 (x - y) + y) = x := by
  rw [wrapInt64_add, Int.sub_add_cancel, wrapInt64_of_fits h]

/-- A number that fits comes back when what was added to it is taken off again, whether or not the
sum fitted. -/
theorem wrapInt64_add_sub {x : Int} (h : FitsInt64 x) (y : Int) :
    wrapInt64 (wrapInt64 (x + y) - y) = x := by
  rw [wrapInt64_sub, Int.add_sub_cancel, wrapInt64_of_fits h]

/-- Saturation changes no number that fits. -/
theorem saturateInt64_of_fits {x : Int} (h : FitsInt64 x) : saturateInt64 x = x := by
  unfold FitsInt64 at h
  unfold saturateInt64
  omega

end CivilTime
