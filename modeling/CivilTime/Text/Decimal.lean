import CivilTime.Width

/-!
# Decimal numbers as text

Texts are lists of characters. Numbers are written without leading zeros or padded with them to
a least width, and are read from a run of ASCII digits after at most one sign. Main statement:
reading undoes writing (`readNat?_padded`).
-/

set_option autoImplicit false

namespace CivilTime.Text

/-- The decimal digits of `n`, without leading zeros; zero is `0`. -/
def digits (n : Nat) : List Char := Nat.toDigits 10 n

/-- The digits of `n`, filled with zeros on the left up to `width` characters. -/
def padded (width n : Nat) : List Char :=
  List.replicate (width - (digits n).length) '0' ++ digits n

/-- The text without the zeros at its end. -/
def trimZeros (text : List Char) : List Char := (text.reverse.dropWhile (· == '0')).reverse

/-- The digits of `x` after a minus sign if `x` is negative. -/
def writeInt (x : Int) : List Char :=
  if x < 0 then '-' :: digits x.natAbs else digits x.natAbs

/-- The value of a non-empty run of ASCII digits, leading zeros included. -/
def readNat? (text : List Char) : Option Nat :=
  if text ≠ [] ∧ text.all Char.isDigit then some (Nat.ofDigitChars 10 text 0) else none

/-- The value of a non-empty run of ASCII digits after at most one sign. -/
def readInt? : List Char → Option Int
  | '-' :: text => (readNat? text).map fun n => -(n : Int)
  | '+' :: text => (readNat? text).map fun n => (n : Int)
  | text => (readNat? text).map fun n => (n : Int)

/-- `readInt?`, for a number of a 32-bit field. -/
def readInt32? (text : List Char) : Option Int :=
  (readInt? text).filter fun x => decide (FitsInt32 x)

/-- `readInt?`, for a number of a 64-bit field. -/
def readInt64? (text : List Char) : Option Int :=
  (readInt? text).filter fun x => decide (FitsInt64 x)

/-- Every number has a digit. -/
theorem digits_ne_nil (n : Nat) : digits n ≠ [] := Nat.toDigits_ne_nil

/-- The characters of a written number are digits. -/
theorem isDigit_of_mem_digits {n : Nat} {c : Char} (h : c ∈ digits n) : c.isDigit = true :=
  Nat.isDigit_of_mem_toDigits (by decide) (by decide) h

/-- Padding is made of digits too. -/
theorem isDigit_of_mem_padded {width n : Nat} {c : Char} (h : c ∈ padded width n) :
    c.isDigit = true := by
  rcases List.mem_append.1 h with h | h
  · rw [List.eq_of_mem_replicate h]
    decide
  · exact isDigit_of_mem_digits h

/-- A padded number has a digit. -/
theorem padded_ne_nil (width n : Nat) : padded width n ≠ [] := by
  simp [padded, digits_ne_nil]

/-- Padding does not change the value. -/
theorem readNat?_padded (width n : Nat) : readNat? (padded width n) = some n := by
  have hd : (padded width n).all Char.isDigit = true :=
    List.all_eq_true.2 fun _ hc => isDigit_of_mem_padded hc
  simp only [readNat?, ne_eq, padded_ne_nil, not_false_eq_true, hd, and_self, if_true]
  rw [padded, Nat.ofDigitChars_append, Nat.ofDigitChars_replicate_zero, digits, Nat.mul_zero,
    Nat.ofDigitChars_ten_toDigits]

end CivilTime.Text
