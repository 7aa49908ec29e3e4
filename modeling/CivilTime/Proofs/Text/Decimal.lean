import CivilTime.Text.Cut
import CivilTime.Text.Decimal
import Mathlib.Algebra.Group.Nat.Defs
import Mathlib.Data.List.TakeWhile
import Mathlib.Data.Nat.Log
import Mathlib.Tactic.SplitIfs

/-!
# Fields of digits come back

A field that does not hold the separator is what a cut hands back (`cut_append`), and a number
comes back from the digits it was written with, padded or not (`readInt32?_padded`,
`readInt32?_writeInt`). Trailing zeros that a writer trims are those that a reader fills in.
-/

set_option autoImplicit false

namespace CivilTime.Text

/-! ## Cuts -/

/-- A text is cut at the first separator. -/
theorem cut_append {sep : Char} {before after : List Char} (h : sep ∉ before) :
    cut sep (before ++ sep :: after) = some (before, after) := by
  induction before with
  | nil => simp [cut, cutNth]
  | cons c before ih =>
    have hc : c ≠ sep := fun heq => h (by simp [heq])
    have hrest : sep ∉ before := fun hmem => h (List.mem_cons_of_mem c hmem)
    have hcut := ih hrest
    unfold cut at hcut ⊢
    rw [List.cons_append, cutNth, if_neg hc, hcut]
    rfl

/-- A later cut passes over what stands before the first separator. -/
theorem cutNth_succ_append {sep : Char} {before : List Char} (h : sep ∉ before) (n : Nat)
    (after : List Char) :
    cutNth sep (n + 1) (before ++ sep :: after) =
      (cutNth sep n after).map fun halves => (before ++ sep :: halves.1, halves.2) := by
  induction before with
  | nil => simp [cutNth]
  | cons c before ih =>
    have hc : c ≠ sep := fun heq => h (by simp [heq])
    have hrest : sep ∉ before := fun hmem => h (List.mem_cons_of_mem c hmem)
    rw [List.cons_append, cutNth, if_neg hc, ih hrest, Option.map_map]
    rfl

/-- The third dash ends three fields that have none themselves. -/
theorem cutNth_fields {year month day : List Char} (hyear : '-' ∉ year) (hmonth : '-' ∉ month)
    (hday : '-' ∉ day) (rest : List Char) :
    cutNth '-' 2 (year ++ '-' :: (month ++ '-' :: (day ++ '-' :: rest))) =
      some (year ++ '-' :: (month ++ '-' :: day), rest) := by
  have hcut : cutNth '-' 0 (day ++ '-' :: rest) = some (day, rest) := cut_append hday
  rw [cutNth_succ_append hyear, cutNth_succ_append hmonth, hcut]
  rfl

/-- A text without the separator is not cut. -/
theorem cut_eq_none {sep : Char} {text : List Char} (h : sep ∉ text) : cut sep text = none := by
  cases hcut : cut sep text with
  | none => rfl
  | some halves =>
    refine absurd ?_ h
    rw [eq_of_cutNth_eq_some hcut]
    simp

/-- A text without the separator is taken whole. -/
theorem takeWhile_of_not_mem {sep : Char} {text : List Char} (h : sep ∉ text) :
    text.takeWhile (· != sep) = text := by
  refine List.takeWhile_eq_self_iff.2 fun c hc => bne_iff_ne.2 ?_
  rintro rfl
  exact h hc

/-- What is taken ends before the first separator. -/
theorem takeWhile_append_sep {sep : Char} {before after : List Char} (h : sep ∉ before) :
    (before ++ sep :: after).takeWhile (· != sep) = before := by
  have hbefore : ∀ c ∈ before, (c != sep) = true := by
    intro c hc
    refine bne_iff_ne.2 ?_
    rintro rfl
    exact h hc
  rw [List.takeWhile_append_of_pos hbefore, List.takeWhile_cons_of_neg (by simp), List.append_nil]

/-- What is left begins with the first separator. -/
theorem dropWhile_append_sep {sep : Char} {before after : List Char} (h : sep ∉ before) :
    (before ++ sep :: after).dropWhile (· != sep) = sep :: after := by
  have hsplit := @List.takeWhile_append_dropWhile Char (· != sep) (before ++ sep :: after)
  rw [takeWhile_append_sep h] at hsplit
  exact List.append_cancel_left hsplit

/-! ## Numbers -/

/-- A padded number has digits only. -/
theorem not_mem_padded {width n : Nat} {c : Char} (hc : c.isDigit = false) : c ∉ padded width n := by
  intro hmem
  rw [isDigit_of_mem_padded hmem] at hc
  cases hc

/-- The digits of a number are the number padded to no width. -/
theorem digits_eq_padded (n : Nat) : digits n = padded 0 n := by
  rw [padded, Nat.zero_sub, List.replicate_zero, List.nil_append]

/-- A number below a power of ten has no more digits than the power has zeros. -/
theorem length_digits_le {width n : Nat} (hwidth : 0 < width) (h : n < 10 ^ width) :
    (digits n).length ≤ width := (Nat.length_toDigits_le_iff (by decide) hwidth).2 h

/-- A number has one digit more than its logarithm says, and zero has one. -/
theorem length_digits (n : Nat) : (digits n).length = Nat.log 10 n + 1 := by
  have hpos : 0 < (digits n).length := List.length_pos_iff.2 (digits_ne_nil n)
  -- either side is the least width that the number fits
  have hfits : n < 10 ^ (digits n).length :=
    (Nat.length_toDigits_le_iff (by decide) hpos).1 (Nat.le_refl _)
  have hge : Nat.log 10 n < (digits n).length := Nat.log_lt_of_lt_pow' hpos.ne' hfits
  have hle : (digits n).length ≤ Nat.log 10 n + 1 :=
    length_digits_le (Nat.succ_pos _) (Nat.lt_pow_succ_log_self (by decide) n)
  omega

/-- A number that fits the width fills it. -/
theorem length_padded {width n : Nat} (hwidth : 0 < width) (h : n < 10 ^ width) :
    (padded width n).length = width := by
  have hlen := length_digits_le hwidth h
  rw [padded, List.length_append, List.length_replicate]
  omega

/-- Numbers that do not fit the width are written in full. -/
theorem width_le_length_padded (width n : Nat) : width ≤ (padded width n).length := by
  rw [padded, List.length_append, List.length_replicate]
  omega

/-- Only a number that fits the width has as many digits. -/
theorem length_padded_eq_iff {width n : Nat} (hwidth : 0 < width) :
    (padded width n).length = width ↔ n < 10 ^ width := by
  constructor
  · intro h
    rw [padded, List.length_append, List.length_replicate] at h
    apply (Nat.length_toDigits_le_iff (by decide) hwidth).1
    change (digits n).length ≤ width
    omega
  · intro h
    exact length_padded hwidth h

/-- The digits of a padded number have its value. -/
theorem ofDigitChars_padded (width n : Nat) : Nat.ofDigitChars 10 (padded width n) 0 = n := by
  have hread := readNat?_padded width n
  unfold readNat? at hread
  split_ifs at hread
  exact Option.some.inj hread

/-- A text that begins with a digit is read without a sign. -/
theorem readInt?_of_head {c : Char} {text : List Char} (hc : c.isDigit = true) :
    readInt? (c :: text) = (readNat? (c :: text)).map fun n => (n : Int) := by
  unfold readInt?
  split
  · next heq =>
    rw [(List.cons.inj heq).1] at hc
    exact absurd hc (by decide)
  · next heq =>
    rw [(List.cons.inj heq).1] at hc
    exact absurd hc (by decide)
  · rfl

/-- A padded number begins with a digit, and more digits follow. -/
theorem exists_padded_eq_cons (width n : Nat) :
    ∃ c text, padded width n = c :: text ∧ c.isDigit = true ∧ ∀ x ∈ text, x.isDigit = true := by
  obtain ⟨c, text, heq⟩ := List.exists_cons_of_ne_nil (padded_ne_nil width n)
  have hdigit : ∀ x ∈ padded width n, x.isDigit = true := fun x => isDigit_of_mem_padded
  rw [heq] at hdigit
  exact ⟨c, text, heq, hdigit c List.mem_cons_self, fun x hx => hdigit x (List.mem_cons_of_mem c hx)⟩

/-- A padded number is read back. -/
theorem readInt?_padded (width n : Nat) : readInt? (padded width n) = some (n : Int) := by
  obtain ⟨c, text, heq, hc, -⟩ := exists_padded_eq_cons width n
  rw [heq, readInt?_of_head hc, ← heq, readNat?_padded]
  rfl

/-- A padded number after a minus sign is read back below zero. -/
theorem readInt?_neg_padded (width n : Nat) :
    readInt? ('-' :: padded width n) = some (-(n : Int)) := by
  rw [readInt?, readNat?_padded]
  rfl

/-- A written number is read back. -/
theorem readInt?_writeInt (x : Int) : readInt? (writeInt x) = some x := by
  unfold writeInt
  split
  · next hneg =>
    rw [digits_eq_padded, readInt?_neg_padded]
    congr 1
    omega
  · next hneg =>
    rw [digits_eq_padded, readInt?_padded]
    congr 1
    omega

/-- A number that is read and fits in 32 bits is read for 32 bits. -/
theorem readInt32?_eq {text : List Char} {x : Int} (h : readInt? text = some x)
    (hx : FitsInt32 x) : readInt32? text = some x := by
  rw [readInt32?, h, Option.filter_some, if_pos (decide_eq_true hx)]

/-- A padded number is read back for 32 bits, if it fits. -/
theorem readInt32?_padded (width : Nat) {n : Nat} (h : n ≤ 2147483647) :
    readInt32? (padded width n) = some (n : Int) :=
  readInt32?_eq (readInt?_padded width n) (by unfold FitsInt32; omega)

/-- A number of 32 bits comes back from its text. -/
theorem readInt32?_writeInt {x : Int} (h : FitsInt32 x) : readInt32? (writeInt x) = some x :=
  readInt32?_eq (readInt?_writeInt x) h

/-- A text with a character that is no digit is no number without a sign. -/
theorem readNat?_eq_none {text : List Char} {c : Char} (hc : c.isDigit = false) (h : c ∈ text) :
    readNat? text = none := by
  refine if_neg ?_
  rintro ⟨-, hall⟩
  rw [List.all_eq_true.1 hall c h] at hc
  cases hc

/-- Only the first character of a number may be no digit. -/
theorem readInt32?_eq_none {text : List Char} {first c : Char} (hc : c.isDigit = false)
    (h : c ∈ text) : readInt32? (first :: text) = none := by
  have hnone : readInt? (first :: text) = none := by
    unfold readInt?
    split
    · next heq =>
      rw [← (List.cons.inj heq).2, readNat?_eq_none hc h]
      rfl
    · next heq =>
      rw [← (List.cons.inj heq).2, readNat?_eq_none hc h]
      rfl
    · rw [readNat?_eq_none hc (List.mem_cons_of_mem first h)]
      rfl
  rw [readInt32?, hnone]
  rfl

/-! ## Trailing zeros -/

/-- Filling the zeros in again gives the text. -/
theorem exists_trimZeros_append (text : List Char) :
    ∃ k, trimZeros text ++ List.replicate k '0' = text := by
  refine ⟨(text.reverse.takeWhile (· == '0')).length, ?_⟩
  have hzeros : text.reverse.takeWhile (· == '0') =
      List.replicate (text.reverse.takeWhile (· == '0')).length '0' := by
    refine List.eq_replicate_of_mem fun c hc => ?_
    exact beq_iff_eq.1 (List.all_eq_true.1 List.all_takeWhile c hc)
  rw [trimZeros, ← List.reverse_replicate, ← hzeros, ← List.reverse_append,
    List.takeWhile_append_dropWhile, List.reverse_reverse]

end CivilTime.Text
