import CivilTime.Date.Printer
import CivilTime.Date.Reader
import CivilTime.Proofs.Text.Decimal

/-!
# Dates come back from their texts

The first character of a written year may be a minus sign, and no other character of a field is a
dash; so a reader that looks for dashes from the second character on finds those between the
fields. What it then reads are the fields of the date, whether or not they name a day (`read_write`).
-/

set_option autoImplicit false

namespace CivilTime.Date

open CivilTime.Text

/-- A year is written as a character that is no plus sign, and digits. -/
theorem exists_writeYear_eq_cons (year : Int) :
    ∃ c text, writeYear year = c :: text ∧ c ≠ '+' ∧ ∀ x ∈ text, x.isDigit = true := by
  have hdigits : ∀ width n, ∃ c text, padded width n = c :: text ∧ c ≠ '+' ∧
      ∀ x ∈ text, x.isDigit = true := by
    intro width n
    obtain ⟨c, text, heq, hc, htext⟩ := exists_padded_eq_cons width n
    refine ⟨c, text, heq, ?_, htext⟩
    rintro rfl
    exact absurd hc (by decide)
  unfold writeYear writeInt
  split_ifs with hfour hneg
  · exact hdigits 4 _
  · refine ⟨'-', _, rfl, by decide, ?_⟩
    exact fun x => isDigit_of_mem_digits
  · rw [digits_eq_padded]
    exact hdigits 0 _

/-- A written year is read back. -/
theorem readInt32?_writeYear {year : Int} (h : FitsInt32 year) :
    readInt32? (writeYear year) = some year := by
  unfold writeYear
  split
  · next hfour =>
    unfold HasFourDigits at hfour
    rw [readInt32?_padded 4 (by omega), Int.toNat_of_nonneg (by omega)]
  · exact readInt32?_writeInt h

/-- Fields that are joined by dashes are split again, and a sign stays with the year. -/
theorem splitFields_write {c : Char} {year month day : List Char} (hyear : '-' ∉ year)
    (hmonth : '-' ∉ month) :
    splitFields (c :: (year ++ '-' :: (month ++ '-' :: day))) = some (c :: year, month, day) := by
  simp only [splitFields, cut_append hyear, cut_append hmonth]

/-- The text of a date is its year, whose first character may be a sign, its month and its day. -/
theorem exists_write_eq_cons (d : Date) :
    ∃ c year, d.write =
        c :: (year ++ '-' :: (padded 2 d.month.toNat ++ '-' :: padded 2 d.day.toNat)) ∧
      writeYear d.year = c :: year ∧ c ≠ '+' ∧ '-' ∉ year := by
  obtain ⟨c, year, heq, hplus, hyear⟩ := exists_writeYear_eq_cons d.year
  refine ⟨c, year, ?_, heq, hplus, fun hmem => absurd (hyear _ hmem) (by decide)⟩
  rw [write, heq, List.append_assoc]
  rfl

/-- The fields of a date are read back from its text. -/
theorem readFields?_write (d : Date) : readFields? d.write = some (d.year, d.month, d.day) := by
  have hmonth := d.month_range
  have hday := d.day_range
  obtain ⟨c, year, hwrite, heq, hplus, hdash⟩ := exists_write_eq_cons d
  have hhead : ¬ d.write.head? = some '+' := by
    rw [hwrite, List.head?_cons, Option.some.injEq]
    exact hplus
  rw [readFields?, if_neg hhead, hwrite, splitFields_write hdash (not_mem_padded (by decide)), ← heq]
  simp only [readInt32?_writeYear d.fits_year, readInt32?_padded 2 (n := d.month.toNat) (by omega),
    readInt32?_padded 2 (n := d.day.toNat) (by omega), Int.toNat_of_nonneg hmonth.1,
    Int.toNat_of_nonneg hday.1]

/-- What is read from the text of a date is what its fields are. -/
theorem read_write (d : Date) : read d.write = ofFields d.year d.month d.day := by
  rw [read, readFields?_write]

/-- A date that a user may write comes back from its text. -/
theorem read_write_of_ofFields {year month day : Int} {d : Date} (hyear : FitsInt32 year)
    (h : ofFields year month day = .ok d) : read d.write = .ok d := by
  obtain ⟨hdate, rfl⟩ := ofFields_eq_ok_iff.1 h
  obtain ⟨hy, hm, hd⟩ := fields_pack_of_isCalendarDate hyear hdate
  rw [read_write, hy, hm, hd, h]

/-- The text of a date is no date any more if something other than digits follows. -/
theorem read_write_append {sep : Char} (hsep : sep.isDigit = false) (d : Date)
    (rest : List Char) :
    read (d.write ++ sep :: rest) = .error (.malformed (d.write ++ sep :: rest)) := by
  obtain ⟨c, year, hwrite, -, hplus, hyear⟩ := exists_write_eq_cons d
  obtain ⟨first, day, hday, -, -⟩ := exists_padded_eq_cons 2 d.day.toNat
  have htext : d.write ++ sep :: rest = c :: (year ++ '-' ::
      (padded 2 d.month.toNat ++ '-' :: (first :: (day ++ sep :: rest)))) := by
    rw [hwrite, hday]
    simp
  have hhead : ¬ (d.write ++ sep :: rest).head? = some '+' := by
    rw [htext, List.head?_cons, Option.some.injEq]
    exact hplus
  have hnone : readInt32? (first :: (day ++ sep :: rest)) = none :=
    readInt32?_eq_none hsep (by simp)
  have hfields : readFields? (d.write ++ sep :: rest) = none := by
    rw [readFields?, if_neg hhead, htext, splitFields_write hyear (not_mem_padded (by decide))]
    simp only [hnone]
    cases readInt32? (c :: year) <;> cases readInt32? (padded 2 d.month.toNat) <;> rfl
  rw [read, hfields]

/-- The text of a date has digits and dashes only. -/
theorem not_mem_write {c : Char} (hc : c.isDigit = false) (hdash : c ≠ '-') (d : Date) :
    c ∉ d.write := by
  have hyear : c ∉ writeYear d.year := by
    unfold writeYear writeInt
    split_ifs
    · exact not_mem_padded hc
    · rw [digits_eq_padded]
      simp [hdash, not_mem_padded hc]
    · rw [digits_eq_padded]
      exact not_mem_padded hc
  unfold write
  simp [hyear, hdash, not_mem_padded hc]

end CivilTime.Date
