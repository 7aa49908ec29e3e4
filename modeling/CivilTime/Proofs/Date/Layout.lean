import CivilTime.Date.Basic
import Mathlib.Algebra.Group.Int.Defs

/-!
# The layout of packed dates

What is stored of a date is one word of 64 bits, with the year above the nine bits that month and day
have together. On words, packing and reading are shifts, masks and changes of width; here they are
written so, and they are the sums and remainders of packed dates, for all words, all years and all
bytes (`pack_eq_ofWord`, `year_ofWord`, `month_ofWord`, `day_ofWord`). Nothing is lost between a date
and its fields (`pack_lossless`).
-/

set_option autoImplicit false

namespace CivilTime.Date

/-! ## Dates as words -/

/-- The date of a stored word. -/
def ofWord (w : BitVec 64) : Date := ⟨w.toInt⟩

/-- The year with its sign, the month and the day, each shifted to its place. -/
def packWord (year : BitVec 32) (month day : BitVec 8) : BitVec 64 :=
  year.signExtend 64 <<< 9 ||| month.setWidth 64 <<< 5 ||| day.setWidth 64

/-- The bits above the ninth, with the sign, as far as 32 bits hold them. -/
def yearOfWord (w : BitVec 64) : BitVec 32 := (w.sshiftRight 9).setWidth 32

/-- The four bits above the fifth. -/
def monthOfWord (w : BitVec 64) : BitVec 8 := (w.sshiftRight 5 &&& 15).setWidth 8

/-- The five lowest bits. -/
def dayOfWord (w : BitVec 64) : BitVec 8 := (w &&& 31).setWidth 8

/-- Read without a sign, a word is its number modulo the number of all words. -/
theorem toNat_eq_toInt_emod (w : BitVec 64) : (w.toNat : Int) = w.toInt % 18446744073709551616 := by
  have hlt := w.isLt
  rw [BitVec.toInt_eq_toNat_cond]
  split <;> omega

/-- The year is cut down to 32 bits and keeps its sign. -/
theorem year_ofWord (w : BitVec 64) : (ofWord w).year = (yearOfWord w).toInt := by
  have hshift : (w.sshiftRight 9).toInt = w.toInt / 512 := by
    rw [BitVec.toInt_sshiftRight, Int.shiftRight_eq_div_pow]
    rfl
  rw [yearOfWord, BitVec.toInt_setWidth, toNat_eq_toInt_emod, hshift, ofWord, year, wrapInt32,
    Int.bmod_def, Int.bmod_def]
  dsimp only
  omega

/-- The month of a word is read by a shift and a mask. -/
theorem month_ofWord (w : BitVec 64) : (ofWord w).month = (monthOfWord w).toNat := by
  have hshift : (w.sshiftRight 5).toInt = w.toInt / 32 := by
    rw [BitVec.toInt_sshiftRight, Int.shiftRight_eq_div_pow]
    rfl
  have hbits := toNat_eq_toInt_emod (w.sshiftRight 5)
  have hmask : (w.sshiftRight 5 &&& 15).toNat = (w.sshiftRight 5).toNat % 16 :=
    Nat.and_two_pow_sub_one_eq_mod _ 4
  rw [monthOfWord, BitVec.toNat_setWidth, hmask, ofWord, month]
  dsimp only
  omega

/-- The day of a word is read by a mask. -/
theorem day_ofWord (w : BitVec 64) : (ofWord w).day = (dayOfWord w).toNat := by
  have hbits := toNat_eq_toInt_emod w
  have hmask : (w &&& 31).toNat = w.toNat % 32 := Nat.and_two_pow_sub_one_eq_mod _ 5
  rw [dayOfWord, BitVec.toNat_setWidth, hmask, ofWord, day]
  dsimp only
  omega

/-- Of a number that is shifted by nine bits, month and day change no bit but the nine new ones and
the four above them. -/
theorem shifted_or_eq {high low : Nat} (h : low < 8192) :
    high * 512 ||| low = (high / 16 * 16 + (high % 16 ||| low / 512)) * 512 + low % 512 := by
  have hdiv : (high * 512 ||| low) / 512 = high * 512 / 512 ||| low / 512 :=
    Nat.or_div_two_pow (n := 9)
  have hmod : (high * 512 ||| low) % 512 = high * 512 % 512 ||| low % 512 :=
    Nat.or_mod_two_pow (n := 9)
  have hdiv' : (high ||| low / 512) / 16 = high / 16 ||| low / 512 / 16 :=
    Nat.or_div_two_pow (n := 4)
  have hmod' : (high ||| low / 512) % 16 = high % 16 ||| low / 512 % 16 :=
    Nat.or_mod_two_pow (n := 4)
  rw [Nat.mul_div_cancel _ (by decide)] at hdiv
  rw [Nat.mul_mod_left, Nat.zero_or] at hmod
  rw [show low / 512 / 16 = 0 by omega, Nat.or_zero] at hdiv'
  rw [show low / 512 % 16 = low / 512 by omega] at hmod'
  omega

/-- A packed word is the year, the month and the day, each at its place. -/
theorem toNat_packWord (year : BitVec 32) (month day : BitVec 8) :
    (packWord year month day).toNat =
      (year.signExtend 64).toNat % 36028797018963968 * 512 ||| (month.toNat * 32 ||| day.toNat) := by
  have hm := month.isLt
  have hd := day.isLt
  rw [packWord, BitVec.toNat_or, BitVec.toNat_or, BitVec.toNat_shiftLeft, BitVec.toNat_shiftLeft,
    BitVec.toNat_setWidth, BitVec.toNat_setWidth, Nat.shiftLeft_eq, Nat.shiftLeft_eq, Nat.or_assoc]
  congr 1
  · omega
  · congr 1 <;> omega

/-- Packing is the packing of words, also of a month and a day that reach into the year. -/
theorem pack_eq_ofWord (year : BitVec 32) (month day : BitVec 8) :
    pack year.toInt month.toNat day.toNat = ofWord (packWord year month day) := by
  have hm := month.isLt
  have hd := day.isLt
  have hyear := toNat_eq_toInt_emod (year.signExtend 64)
  have hword := toNat_packWord year month day
  have hlow : month.toNat * 32 ||| day.toNat < 2 ^ 13 := Nat.or_lt_two_pow (by omega) (by omega)
  have hmb : (wrapByte month.toNat).toNat = month.toNat := by unfold wrapByte; omega
  have hdb : (wrapByte day.toNat).toNat = day.toNat := by unfold wrapByte; omega
  rw [BitVec.toInt_signExtend_of_le (by decide)] at hyear
  -- the four bits that month and day may set are those of the year itself
  have hfour : (year.signExtend 64).toNat % 36028797018963968 % 16 = (year.toInt % 16).toNat := by
    omega
  have hset : (year.toInt % 16).toNat ||| (month.toNat * 32 ||| day.toNat) / 512 < 2 ^ 4 :=
    Nat.or_lt_two_pow (by omega) (by omega)
  have hylow := year.le_toInt
  have hyhigh := year.toInt_lt
  rw [shifted_or_eq hlow, hfour] at hword
  rw [ofWord, BitVec.toInt_eq_toNat_cond (packWord year month day)]
  simp only [pack, hmb, hdb, setLowBits]
  congr 1
  split <;> omega

/-! ## Fields that have room -/

/-- The year has 32 bits, the month four and the day five. -/
def HaveRoom (year month day : Int) : Prop :=
  FitsInt32 year ∧ (0 ≤ month ∧ month ≤ 15) ∧ (0 ≤ day ∧ day ≤ 31)

instance (year month day : Int) : Decidable (HaveRoom year month day) :=
  inferInstanceAs (Decidable (_ ∧ _ ∧ _))

/-- Numbers of two digits are compared by their upper digits, and by the lower ones if those are the
same. -/
theorem compare_digits {n a b a' b' : Int} (hb : 0 ≤ b ∧ b < n) (hb' : 0 ≤ b' ∧ b' < n) :
    compare (n * a + b) (n * a' + b') = (compare a a').then (compare b b') := by
  have hn : 0 ≤ n := by omega
  rcases Int.lt_trichotomy a a' with hlt | rfl | hgt
  · have hupper := Int.mul_le_mul_of_nonneg_left (show a + 1 ≤ a' by omega) hn
    rw [Int.mul_add, Int.mul_one] at hupper
    rw [Int.compare_eq_lt.2 hlt, Int.compare_eq_lt.2 (by omega)]
    rfl
  · rw [Int.compare_eq_eq.2 (rfl : a = a)]
    change _ = compare b b'
    rcases Int.lt_trichotomy b b' with hlt | rfl | hgt
    · rw [Int.compare_eq_lt.2 hlt, Int.compare_eq_lt.2 (by omega)]
    · rw [Int.compare_eq_eq.2 rfl, Int.compare_eq_eq.2 rfl]
    · rw [Int.compare_eq_gt.2 hgt, Int.compare_eq_gt.2 (by omega)]
  · have hupper := Int.mul_le_mul_of_nonneg_left (show a' + 1 ≤ a by omega) hn
    rw [Int.mul_add, Int.mul_one] at hupper
    rw [Int.compare_eq_gt.2 hgt, Int.compare_eq_gt.2 (by omega)]
    rfl

namespace HaveRoom

variable {year month day year' month' day' : Int}

/-- A month with room in the layout has four bits. -/
theorem month_range (h : HaveRoom year month day) : 0 ≤ month ∧ month < 16 := by
  have hmonth := h.2.1
  omega

/-- A day with room in the layout has five bits. -/
theorem day_range (h : HaveRoom year month day) : 0 ≤ day ∧ day < 32 := by
  have hday := h.2.2
  omega

/-- Fields with room in the layout are read back. -/
theorem fields_pack (h : HaveRoom year month day) :
    (pack year month day).year = year ∧ (pack year month day).month = month ∧
      (pack year month day).day = day := by
  have hm := h.month_range
  have hd := h.day_range
  exact ⟨year_pack h.1 hm hd, month_pack hm hd, day_pack hm hd⟩

/-- Month and day are the lower digit of a date, and the day is the lower digit of these. -/
theorem compare_pack (h : HaveRoom year month day) (h' : HaveRoom year' month' day') :
    compare (pack year month day) (pack year' month' day') =
      (compare year year').then ((compare month month').then (compare day day')) := by
  have hm := h.month_range
  have hm' := h'.month_range
  have hd := h.day_range
  have hd' := h'.day_range
  change compare (pack year month day).bits (pack year' month' day').bits = _
  rw [bits_pack hm hd, bits_pack hm' hd', Int.add_assoc, Int.add_assoc,
    compare_digits (by omega) (by omega), compare_digits hd hd']

end HaveRoom

/-! ## Both directions -/

/-- A date is the one packed of its fields exactly if its number has no more bits than they have. -/
theorem bits_pack_fields_iff (d : Date) :
    (pack d.year d.month d.day).bits = d.bits ↔ -2 ^ 40 ≤ d.bits ∧ d.bits < 2 ^ 40 := by
  rw [bits_pack d.month_range d.day_range, year, wrapInt32, Int.bmod_def, month, day]
  omega

/-- Packing and reading are shifts and masks of words, and they lose nothing. Fields that have room
come back as they were, and packed dates are compared by year, then month, then day, with years
before zero first. A number comes back from its fields exactly if it is one of 41 bits. -/
theorem pack_lossless :
    (∀ (year : BitVec 32) (month day : BitVec 8),
      pack year.toInt month.toNat day.toNat = ofWord (packWord year month day)) ∧
    (∀ w : BitVec 64, (ofWord w).year = (yearOfWord w).toInt ∧
      (ofWord w).month = (monthOfWord w).toNat ∧ (ofWord w).day = (dayOfWord w).toNat) ∧
    (∀ year month day : Int, HaveRoom year month day →
      (pack year month day).year = year ∧ (pack year month day).month = month ∧
        (pack year month day).day = day) ∧
    (∀ year month day year' month' day' : Int,
      HaveRoom year month day → HaveRoom year' month' day' →
        compare (pack year month day) (pack year' month' day') =
          (compare year year').then ((compare month month').then (compare day day'))) ∧
    ∀ d : Date,
      (pack d.year d.month d.day).bits = d.bits ↔ -2 ^ 40 ≤ d.bits ∧ d.bits < 2 ^ 40 := by
  refine ⟨pack_eq_ofWord, fun w => ?_, fun year month day h => h.fields_pack,
    fun year month day year' month' day' h h' => h.compare_pack h', bits_pack_fields_iff⟩
  exact ⟨year_ofWord w, month_ofWord w, day_ofWord w⟩

/-- A year before zero with the largest month and day, the beginning of the next year, and the first
number that has too many bits. -/
theorem pack_lossless_beforeYearZero :
    HaveRoom (-44) 15 31 ∧ (pack (-44) 15 31).year = -44 ∧ (pack (-44) 15 31).month = 15 ∧
      (pack (-44) 15 31).day = 31 ∧ compare (pack (-44) 15 31) (pack (-43) 0 0) = .lt ∧
      (pack (mk (2 ^ 40)).year (mk (2 ^ 40)).month (mk (2 ^ 40)).day).bits ≠ 2 ^ 40 := by
  obtain ⟨-, -, hfields, horder, hback⟩ := pack_lossless
  have hroom : HaveRoom (-44) 15 31 := by decide
  obtain ⟨hy, hm, hd⟩ := hfields (-44) 15 31 hroom
  refine ⟨hroom, hy, hm, hd, ?_, fun hsame => ?_⟩
  · rw [horder (-44) 15 31 (-43) 0 0 hroom (by decide)]
    decide
  · have hbits := (hback ⟨2 ^ 40⟩).1 hsame
    exact absurd hbits.2 (Int.lt_irrefl _)

end CivilTime.Date
