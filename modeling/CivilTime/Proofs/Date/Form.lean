import CivilTime.Date.Reader
import CivilTime.Proofs.Text.Number

/-!
# The form of dates

Dates are written as `[+|-]YYYY-MM-DD`. A text of this form whose values name a day is read as that
day. What else is read as a date has a plus sign too many: the plus in front of the year is skipped
before the year is read as a number, and every number may have a sign of its own, so that one more
plus is let through before each field, and a plus before a minus (`read_eq_ok_iff`).
-/

set_option autoImplicit false

namespace CivilTime.Date

open CivilTime.Text

/-! ## The two forms -/

/-- A text of the form `[+|-]YYYY-MM-DD`, each field of one or more digits, and the values of its
fields. -/
inductive HasForm : List Char → Int → Int → Int → Prop
  | fields {sign year month day : List Char} {factor : Int} (hsign : IsSign sign factor)
      (hyear : IsDigits year) (hmonth : IsDigits month) (hday : IsDigits day) :
      HasForm (sign ++ year ++ '-' :: (month ++ '-' :: day)) (factor * digitsValue year)
        (digitsValue month) (digitsValue day)

/-- At most one plus sign. -/
def IsPlus (text : List Char) : Prop := text = [] ∨ text = ['+']

/-- The same form, where one more plus sign may stand before each field. -/
inductive HasFormWithPluses : List Char → Int → Int → Int → Prop
  | fields {plus sign year plus' month plus'' day : List Char} {factor : Int} (hplus : IsPlus plus)
      (hsign : IsSign sign factor) (hyear : IsDigits year) (hplus' : IsPlus plus')
      (hmonth : IsDigits month) (hplus'' : IsPlus plus'') (hday : IsDigits day) :
      HasFormWithPluses
        (plus ++ (sign ++ year ++ '-' :: (plus' ++ month ++ '-' :: (plus'' ++ day))))
        (factor * digitsValue year) (digitsValue month) (digitsValue day)

/-- The values name a day of the calendar in a year of 32 bits, and the date has just these
fields. -/
structure IsDateOf (d : Date) (year month day : Int) : Prop where
  fits : FitsInt32 year
  calendar : IsCalendarDate year month day
  eq_pack : d = pack year month day
  fields : d.year = year ∧ d.month = month ∧ d.day = day

/-- A plus sign stands where the form has none: after the first character of the text, or in front
of a minus sign. -/
def HasExtraPlus (text : List Char) : Prop := '+' ∈ text.tail ∨ ∃ rest, text = '+' :: '-' :: rest

/-- Fields are accepted exactly if they are those of a date, and then for that date. -/
theorem ofFields_eq_ok_iff_isDateOf {year month day : Int} {d : Date} (hyear : FitsInt32 year) :
    ofFields year month day = .ok d ↔ d.IsDateOf year month day := by
  rw [ofFields_eq_ok_iff]
  constructor
  · rintro ⟨hdate, rfl⟩
    exact ⟨hyear, hdate, rfl, fields_pack_of_isCalendarDate hyear hdate⟩
  · rintro ⟨-, hdate, hpack, -⟩
    exact ⟨hdate, hpack⟩

/-! ## The fields of a text -/

/-- A text is split at two dashes, the first of which is not its first character. -/
theorem splitFields_eq_some_iff {text year month day : List Char} :
    splitFields text = some (year, month, day) ↔
      text = year ++ '-' :: (month ++ '-' :: day) ∧
        (∃ c rest, year = c :: rest ∧ '-' ∉ rest) ∧ '-' ∉ month := by
  constructor
  · intro h
    cases text with
    | nil => cases h
    | cons c body =>
      unfold splitFields at h
      cases hyear : cut '-' body with
      | none => simp [hyear] at h
      | some halves =>
        cases hmonth : cut '-' halves.2 with
        | none => simp [hyear, hmonth] at h
        | some halves' =>
          simp only [hyear, hmonth, Option.some.injEq, Prod.mk.injEq] at h
          obtain ⟨rfl, rfl, rfl⟩ := h
          obtain ⟨hbody, hrest⟩ := cut_eq_some_iff.1 hyear
          obtain ⟨hbody', hrest'⟩ := cut_eq_some_iff.1 hmonth
          exact ⟨by rw [hbody, hbody', List.cons_append], ⟨c, _, rfl, hrest⟩, hrest'⟩
  · rintro ⟨rfl, ⟨c, rest, rfl, hrest⟩, hmonth⟩
    simp only [List.cons_append, splitFields, cut_append hrest, cut_append hmonth]

/-- The fields are those of the text, or of the text after its plus sign. -/
theorem readFields?_plus_append {plus text : List Char}
    (hplus : plus = ['+'] ∨ plus = [] ∧ text.head? ≠ some '+') {yearText monthText dayText : List Char}
    (hsplit : splitFields text = some (yearText, monthText, dayText)) {year month day : Int}
    (hyear : readInt32? yearText = some year) (hmonth : readInt32? monthText = some month)
    (hday : readInt32? dayText = some day) :
    readFields? (plus ++ text) = some (year, month, day) := by
  have hrest : (if (plus ++ text).head? = some '+' then (plus ++ text).tail else plus ++ text) =
      text := by
    rcases hplus with rfl | ⟨rfl, hhead⟩
    · rfl
    · exact if_neg hhead
  unfold readFields?
  rw [hrest, hsplit]
  simp only [hyear, hmonth, hday]

/-- Fields that are read come of three numbers between two dashes, after an optional plus sign. -/
theorem exists_of_readFields? {text : List Char} {year month day : Int}
    (h : readFields? text = some (year, month, day)) :
    ∃ plus yearText monthText dayText, IsPlus plus ∧
      text = plus ++ (yearText ++ '-' :: (monthText ++ '-' :: dayText)) ∧
      readInt32? yearText = some year ∧ readInt32? monthText = some month ∧
      readInt32? dayText = some day := by
  obtain ⟨plus, hplus, hrest⟩ : ∃ plus, IsPlus plus ∧
      text = plus ++ if text.head? = some '+' then text.tail else text := by
    by_cases hhead : text.head? = some '+'
    · obtain ⟨rest, rfl⟩ := List.head?_eq_some_iff.1 hhead
      exact ⟨['+'], .inr rfl, rfl⟩
    · exact ⟨[], .inl rfl, (if_neg hhead).symm⟩
  unfold readFields? at h
  split at h
  · cases h
  next yearText monthText dayText hsplit =>
    split at h
    next hyear hmonth hday =>
      cases h
      rw [(splitFields_eq_some_iff.1 hsplit).1] at hrest
      exact ⟨plus, yearText, monthText, dayText, hplus, hrest, hyear, hmonth, hday⟩
    · cases h

/-- A number from one on has no minus sign. -/
theorem exists_plus_of_readInt? {text : List Char} {x : Int} (h : readInt? text = some x)
    (hx : 1 ≤ x) :
    ∃ plus digits, IsPlus plus ∧ IsDigits digits ∧ text = plus ++ digits ∧
      x = digitsValue digits := by
  obtain ⟨sign, digits, factor, hsign, hdigits, htext, hvalue⟩ := readInt?_eq_some_iff.1 h
  cases hsign with
  | none => exact ⟨[], digits, .inl rfl, hdigits, htext, by omega⟩
  | plus => exact ⟨['+'], digits, .inr rfl, hdigits, htext, by omega⟩
  | minus => omega

/-- Digits after an optional plus sign are read as their value. -/
theorem readInt?_plus_append {plus digits : List Char} (hplus : IsPlus plus)
    (hdigits : IsDigits digits) : readInt? (plus ++ digits) = some (digitsValue digits : Int) := by
  rcases hplus with rfl | rfl
  · rw [readInt?_sign_append .none hdigits, Int.one_mul]
  · rw [readInt?_sign_append .plus hdigits, Int.one_mul]

/-- A year has no dash but its sign. -/
theorem exists_year_eq_cons {sign year : List Char} {factor : Int} (hsign : IsSign sign factor)
    (hyear : IsDigits year) : ∃ c rest, sign ++ year = c :: rest ∧ '-' ∉ rest := by
  have hdash : '-' ∉ year := hyear.not_mem (by decide)
  cases hsign with
  | none =>
    obtain ⟨c, rest, rfl, -⟩ := hyear.exists_eq_cons
    exact ⟨c, rest, rfl, fun hmem => hdash (List.mem_cons_of_mem c hmem)⟩
  | plus => exact ⟨'+', year, rfl, hdash⟩
  | minus => exact ⟨'-', year, rfl, hdash⟩

/-! ## What is read -/

/-- The month and the day of a date are small numbers. -/
theorem fits_of_isCalendarDate {year month day : Int} (h : IsCalendarDate year month day) :
    FitsInt32 month ∧ FitsInt32 day := by
  have hlen := daysInMonth_bounds year month
  obtain ⟨hmonth, hday, -⟩ := h
  unfold FitsInt32
  omega

section Fields

variable {sign year plus' month plus'' day : List Char} {factor : Int} (hsign : IsSign sign factor)
  (hyear : IsDigits year) (hplus' : IsPlus plus') (hmonth : IsDigits month)
  (hplus'' : IsPlus plus'') (hday : IsDigits day)

include hsign hyear hplus' hmonth hplus'' hday

/-- A plus sign in front is skipped, if there is one; the text after it is cut at its dashes. -/
theorem readFields?_plus_fields {plus : List Char}
    (hplus : plus = ['+'] ∨ plus = [] ∧ (sign ++ year).head? ≠ some '+')
    (hfits : FitsInt32 (factor * digitsValue year))
    (hdate : IsCalendarDate (factor * digitsValue year) (digitsValue month) (digitsValue day)) :
    readFields? (plus ++ (sign ++ year ++ '-' :: (plus' ++ month ++ '-' :: (plus'' ++ day)))) =
      some (factor * digitsValue year, (digitsValue month : Int), (digitsValue day : Int)) := by
  obtain ⟨hfitsMonth, hfitsDay⟩ := fits_of_isCalendarDate hdate
  obtain ⟨c, rest, hcons, hrest⟩ := exists_year_eq_cons hsign hyear
  have hdash : '-' ∉ plus' ++ month := by
    have hdigits : '-' ∉ month := hmonth.not_mem (by decide)
    rcases hplus' with rfl | rfl <;> simp [hdigits]
  refine readFields?_plus_append ?_ (splitFields_eq_some_iff.2 ⟨rfl, ⟨c, rest, hcons, hrest⟩, hdash⟩)
    (readInt32?_eq (readInt?_sign_append hsign hyear) hfits)
    (readInt32?_eq (readInt?_plus_append hplus' hmonth) hfitsMonth)
    (readInt32?_eq (readInt?_plus_append hplus'' hday) hfitsDay)
  rw [hcons] at hplus ⊢
  exact hplus

end Fields

/-- The fields of a text of the form, extra plus signs included, are read. -/
theorem HasFormWithPluses.readFields?_eq {text : List Char} {year month day : Int}
    (h : HasFormWithPluses text year month day) (hyear : FitsInt32 year)
    (hdate : IsCalendarDate year month day) : readFields? text = some (year, month, day) := by
  obtain @⟨plus, sign, yearText, plus', monthText, plus'', dayText, factor, hplus, hsign, hyearText,
    hplus', hmonthText, hplus'', hdayText⟩ := h
  rcases hplus with rfl | rfl
  · -- a plus sign of the year itself is the one that is skipped
    cases hsign with
    | none =>
      obtain ⟨c, rest, rfl, hc, -⟩ := hyearText.exists_eq_cons
      refine readFields?_plus_fields .none hyearText hplus' hmonthText hplus'' hdayText
        (.inr ⟨rfl, ?_⟩) hyear hdate
      rintro ⟨⟩
      exact absurd hc (by decide)
    | plus =>
      exact readFields?_plus_fields .none hyearText hplus' hmonthText hplus'' hdayText (.inl rfl)
        hyear hdate
    | minus =>
      exact readFields?_plus_fields .minus hyearText hplus' hmonthText hplus'' hdayText
        (.inr ⟨rfl, by simp⟩) hyear hdate
  · exact readFields?_plus_fields hsign hyearText hplus' hmonthText hplus'' hdayText (.inl rfl)
      hyear hdate

/-- The dates that are read are those of the form, up to a plus sign more before each field. -/
theorem read_eq_ok_iff_hasFormWithPluses {text : List Char} {d : Date} :
    read text = .ok d ↔
      ∃ year month day, HasFormWithPluses text year month day ∧ d.IsDateOf year month day := by
  constructor
  · intro h
    unfold read at h
    split at h
    · cases h
    next year month day hfields =>
      obtain ⟨plus, yearText, monthText, dayText, hplus, rfl, hyear, hmonth, hday⟩ :=
        exists_of_readFields? hfields
      obtain ⟨hyearInt, hfits⟩ := readInt32?_eq_some_iff.1 hyear
      have hdate := (ofFields_eq_ok_iff_isDateOf hfits).1 h
      obtain ⟨sign, yearDigits, factor, hsign, hyearDigits, rfl, rfl⟩ :=
        readInt?_eq_some_iff.1 hyearInt
      obtain ⟨plus', monthDigits, hplus', hmonthDigits, rfl, rfl⟩ :=
        exists_plus_of_readInt? (readInt32?_eq_some_iff.1 hmonth).1 hdate.calendar.1.1
      obtain ⟨plus'', dayDigits, hplus'', hdayDigits, rfl, rfl⟩ :=
        exists_plus_of_readInt? (readInt32?_eq_some_iff.1 hday).1 hdate.calendar.2.1.1
      exact ⟨_, _, _, .fields hplus hsign hyearDigits hplus' hmonthDigits hplus'' hdayDigits, hdate⟩
  · rintro ⟨year, month, day, hform, hdate⟩
    unfold read
    rw [hform.readFields?_eq hdate.fits hdate.calendar]
    exact (ofFields_eq_ok_iff_isDateOf hdate.fits).2 hdate

/-! ## Plus signs too many -/

/-- The documented form is a case of the form with extra plus signs. -/
theorem HasForm.withPluses {text : List Char} {year month day : Int}
    (h : HasForm text year month day) : HasFormWithPluses text year month day := by
  obtain ⟨hsign, hyear, hmonth, hday⟩ := h
  exact .fields (.inl rfl) hsign hyear (.inl rfl) hmonth (.inl rfl) hday

/-- The form itself has no plus sign too many. -/
theorem HasForm.not_hasExtraPlus {text : List Char} {year month day : Int}
    (h : HasForm text year month day) : ¬ HasExtraPlus text := by
  obtain ⟨hsign, hyear, hmonth, hday⟩ := h
  have hplus {digits : List Char} (hdigits : IsDigits digits) : '+' ∉ digits :=
    hdigits.not_mem (by decide)
  obtain ⟨c, rest, rfl, hc, -⟩ := hyear.exists_eq_cons
  have hrest : '+' ∉ rest := fun hmem => hplus hyear (List.mem_cons_of_mem c hmem)
  have hplusHead : c ≠ '+' := by
    rintro rfl
    exact absurd hc (by decide)
  have hdashHead : c ≠ '-' := by
    rintro rfl
    exact absurd hc (by decide)
  cases hsign <;>
    simp [HasExtraPlus, hplus hmonth, hplus hday, hrest, hplusHead, hplusHead.symm, hdashHead]

/-- Without a plus sign too many, nothing more than the form is left. -/
theorem HasFormWithPluses.hasForm {text : List Char} {year month day : Int}
    (h : HasFormWithPluses text year month day) (hextra : ¬ HasExtraPlus text) :
    HasForm text year month day := by
  obtain @⟨plus, sign, yearText, plus', monthText, plus'', dayText, factor, hplus, hsign, hyear,
    hplus', hmonth, hplus'', hday⟩ := h
  obtain ⟨htail, hminus⟩ := not_or.1 hextra
  have hfront : plus ++ (sign ++ yearText) ≠ [] := by simp [hyear.1]
  have hback : '+' ∉ '-' :: (plus' ++ monthText ++ '-' :: (plus'' ++ dayText)) := by
    intro hmem
    apply htail
    rw [← List.append_assoc plus, List.tail_append_of_ne_nil hfront]
    exact List.mem_append_right _ hmem
  obtain rfl : plus' = [] := hplus'.resolve_right fun heq => hback (by simp [heq])
  obtain rfl : plus'' = [] := hplus''.resolve_right fun heq => hback (by simp [heq])
  rcases hplus with rfl | rfl
  · exact .fields hsign hyear hmonth hday
  · cases hsign with
    | none => exact .fields .plus hyear hmonth hday
    | plus => exact absurd (by simp) htail
    | minus => exact absurd ⟨_, rfl⟩ hminus

/-- The texts of the form `[+|-]YYYY-MM-DD` whose values name a day are exactly the texts that are
read without a plus sign too many, and they are read as that day. Of the other texts, those are read
which have the form up to one more plus sign before each field. -/
theorem read_eq_ok_iff (text : List Char) (d : Date) :
    ((∃ year month day, HasForm text year month day ∧ d.IsDateOf year month day) ↔
      read text = .ok d ∧ ¬ HasExtraPlus text) ∧
    (read text = .ok d ↔
      ∃ year month day, HasFormWithPluses text year month day ∧ d.IsDateOf year month day) := by
  refine ⟨⟨?_, ?_⟩, read_eq_ok_iff_hasFormWithPluses⟩
  · rintro ⟨year, month, day, hform, hdate⟩
    exact ⟨read_eq_ok_iff_hasFormWithPluses.2 ⟨year, month, day, hform.withPluses, hdate⟩,
      hform.not_hasExtraPlus⟩
  · rintro ⟨hread, hextra⟩
    obtain ⟨year, month, day, hform, hdate⟩ := read_eq_ok_iff_hasFormWithPluses.1 hread
    exact ⟨year, month, day, hform.hasForm hextra, hdate⟩

/-- A plus sign before a minus sign is read, and is not of the form. -/
theorem not_read_eq_ok_iff_hasForm :
    read "+-44-03-15".toList = .ok (pack (-44) 3 15) ∧
      ¬ ∃ year month day, HasForm "+-44-03-15".toList year month day := by
  refine ⟨by decide, ?_⟩
  rintro ⟨year, month, day, hform⟩
  exact hform.not_hasExtraPlus (.inr ⟨"44-03-15".toList, by decide⟩)

end CivilTime.Date
