import CivilTime.Width

/-!
# Packed dates

A date keeps year, month and day as bit fields of one signed number: the day in the five lowest
bits, the month in the next four, the year above them with its sign. This number is what is
stored, and dates are ordered by it. Packing checks nothing; `CivilTime.Date.ofFields` is for
fields that come from a user.

Main statement: fields that fit come back, and the number is then a plain sum (`bits_pack`,
`year_pack`, `month_pack`, `day_pack`).
-/

set_option autoImplicit false

namespace CivilTime

/-- A year, a month and a day in one number. -/
structure Date where
  /-- The stored number. -/
  bits : Int
deriving DecidableEq, Repr

namespace Date

instance : LT Date := ⟨fun a b => a.bits < b.bits⟩

instance : LE Date := ⟨fun a b => a.bits ≤ b.bits⟩

instance : Ord Date := ⟨fun a b => compare a.bits b.bits⟩

instance (a b : Date) : Decidable (a < b) := inferInstanceAs (Decidable (a.bits < b.bits))

instance (a b : Date) : Decidable (a ≤ b) := inferInstanceAs (Decidable (a.bits ≤ b.bits))

/-- The year, as a 32-bit number. -/
def year (d : Date) : Int := wrapInt32 (d.bits / 512)

/-- The month, `1` to `12` in a date of the calendar. -/
def month (d : Date) : Int := d.bits / 32 % 16

/-- The day of the month, `1` to `31` in a date of the calendar. -/
def day (d : Date) : Int := d.bits % 32

/-- The stored year fits in 32 bits, whatever the bits are. -/
theorem fits_year (d : Date) : FitsInt32 d.year := fits_wrapInt32 _

/-- The stored month is a number of four bits. -/
theorem month_range (d : Date) : 0 ≤ d.month ∧ d.month < 16 := by
  unfold month
  omega

/-- The stored day is a number of five bits. -/
theorem day_range (d : Date) : 0 ≤ d.day ∧ d.day < 32 := by
  unfold day
  omega

/-- The bits of `low` set in `x`, where `low` has four bits. -/
def setLowBits (x : Int) (low : Nat) : Int := x / 16 * 16 + ((x % 16).toNat ||| low : Nat)

/-- Packs the fields without a check. Month and day enter as bytes, and the bits that do not fit
their field are set in the fields above. -/
def pack (year month day : Int) : Date :=
  let low := (wrapByte month).toNat * 32 ||| (wrapByte day).toNat
  ⟨setLowBits year (low / 512) * 512 + (low % 512 : Nat)⟩

/-- 1970-01-01, the day from which days and instants are counted. -/
def epoch : Date := pack 1970 1 1

/-- A month and a day that fit their fields do not touch each other. -/
theorem or_eq_add_of_fit {month day : Nat} (hd : day < 32) :
    month * 32 ||| day = month * 32 + day := by
  rw [Nat.mul_comm]
  exact (Nat.two_pow_add_eq_or_of_lt (i := 5) hd month).symm

/-- Packing fields that fit is a plain sum. -/
theorem bits_pack {year month day : Int} (hm : 0 ≤ month ∧ month < 16)
    (hd : 0 ≤ day ∧ day < 32) : (pack year month day).bits = 512 * year + 32 * month + day := by
  have hmb : wrapByte month = month := by unfold wrapByte; omega
  have hdb : wrapByte day = day := by unfold wrapByte; omega
  have hor := @or_eq_add_of_fit month.toNat day.toNat (by omega)
  have hlow : (month.toNat * 32 + day.toNat) / 512 = 0 := by omega
  simp only [pack, hmb, hdb, hor, hlow, setLowBits, Nat.or_zero]
  omega

/-- A year that fits comes back. -/
theorem year_pack {year month day : Int} (hy : FitsInt32 year) (hm : 0 ≤ month ∧ month < 16)
    (hd : 0 ≤ day ∧ day < 32) : (pack year month day).year = year := by
  rw [Date.year, bits_pack hm hd, show (512 * year + 32 * month + day) / 512 = year by omega,
    wrapInt32_of_fits hy]

/-- A month that fits comes back. -/
theorem month_pack {year month day : Int} (hm : 0 ≤ month ∧ month < 16)
    (hd : 0 ≤ day ∧ day < 32) : (pack year month day).month = month := by
  rw [Date.month, bits_pack hm hd]
  omega

/-- A day that fits comes back. -/
theorem day_pack {year month day : Int} (hm : 0 ≤ month ∧ month < 16)
    (hd : 0 ≤ day ∧ day < 32) : (pack year month day).day = day := by
  rw [Date.day, bits_pack hm hd]
  omega

end Date

end CivilTime
