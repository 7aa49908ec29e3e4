import CivilTime.Proofs.Text.Number
import CivilTime.Proofs.Zone.Offset

/-!
# The form of offset designators

An offset is read from five forms, but the designator of a zone must also be the beginning of the
canonical text of the offset that is read, `±HH:MM`. The forms with one digit for the hours, and the
one without a colon, do not begin like that, and a zero with a minus sign does not either, as its
canonical text has a plus sign. So designators are of the form `[+-]HH[:MM]`, with one exception: of
`+00:00` the text `+0` is a beginning too, and is read as a form of its own
(`ofDesignator_ok_iff_error_iff`).
-/

set_option autoImplicit false

namespace CivilTime

open CivilTime.Text

namespace UtcOffset

/-! ## The form -/

def IsTwoDigits (text : List Char) : Prop := IsDigits text ∧ text.length = 2

/-- A text of the form `HH[:MM]`, and the hours and minutes of a day that it stands for. -/
inductive HasHoursMinutes : List Char → Nat → Nat → Prop
  | hours {hours : List Char} (hhours : IsTwoDigits hours) (hday : digitsValue hours ≤ 23) :
      HasHoursMinutes hours (digitsValue hours) 0
  | minutes {hours minutes : List Char} (hhours : IsTwoDigits hours)
      (hday : digitsValue hours ≤ 23) (hminutes : IsTwoDigits minutes)
      (hhour : digitsValue minutes ≤ 59) :
      HasHoursMinutes (hours ++ ':' :: minutes) (digitsValue hours) (digitsValue minutes)

/-- A text of the form `[+-]HH[:MM]`, and the minutes it stands for. A zero has no minus sign. -/
inductive HasDesignatorForm : List Char → Int → Prop
  | east {text : List Char} {hours minutes : Nat} (h : HasHoursMinutes text hours minutes) :
      HasDesignatorForm ('+' :: text) (hours * 60 + minutes)
  | west {text : List Char} {hours minutes : Nat} (h : HasHoursMinutes text hours minutes)
      (hne : hours * 60 + minutes ≠ 0) : HasDesignatorForm ('-' :: text) (-(hours * 60 + minutes))

/-- Two digits are their value, padded to two digits. -/
theorem IsTwoDigits.padded_eq {text : List Char} (h : IsTwoDigits text) :
    padded 2 (digitsValue text) = text := by
  have hpadded := padded_digitsValue h.1
  rwa [h.2] at hpadded

/-- The hours of the form are at most 23 and the minutes at most 59. -/
theorem HasHoursMinutes.range {text : List Char} {hours minutes : Nat}
    (h : HasHoursMinutes text hours minutes) : hours ≤ 23 ∧ minutes ≤ 59 := by
  cases h with
  | hours _ hday => exact ⟨hday, by decide⟩
  | minutes _ hday _ hhour => exact ⟨hday, hhour⟩

/-! ## Hours and minutes -/

/-- The hours and minutes of the form are read. -/
theorem HasHoursMinutes.readHoursMinutes?_eq {text : List Char} {hours minutes : Nat}
    (h : HasHoursMinutes text hours minutes) : readHoursMinutes? text = some (hours, minutes) := by
  cases h with
  | hours hhours hday =>
    have hread := readHoursMinutes?_hours (Nat.lt_of_le_of_lt hday (by decide))
    rwa [hhours.padded_eq] at hread
  | minutes hhours hday hminutes hhour =>
    have hread := readHoursMinutes?_hours_minutes (Nat.lt_of_le_of_lt hday (by decide))
      (Nat.lt_of_le_of_lt hhour (by decide))
    rwa [hhours.padded_eq, hminutes.padded_eq] at hread

/-- The form is a beginning of the canonical one. -/
theorem HasHoursMinutes.isPrefix {text : List Char} {hours minutes : Nat}
    (h : HasHoursMinutes text hours minutes) :
    text <+: padded 2 hours ++ ':' :: padded 2 minutes := by
  cases h with
  | hours hhours _ =>
    rw [hhours.padded_eq]
    exact List.prefix_append _ _
  | minutes hhours _ hminutes _ =>
    refine ⟨[], ?_⟩
    rw [List.append_nil, hhours.padded_eq, hminutes.padded_eq]

/-- A digit alone has a zero in front of it when it is padded. -/
theorem padded_two_of_lt {n : Nat} (h : n < 10) : padded 2 n = '0' :: padded 1 n := by
  have hone : (digits n).length = 1 := by
    rw [digits, Nat.toDigits_of_lt_base h, List.length_singleton]
  rw [padded, padded, hone]
  rfl

/-- A beginning of the canonical form that is itself read as these hours and minutes is of the form,
or it is a zero alone. -/
theorem hasHoursMinutes_of_isPrefix {text : List Char} {hours minutes : Nat}
    (hread : readHoursMinutes? text = some (hours, minutes)) (hhours : hours ≤ 23)
    (hminutes : minutes ≤ 59) (hbegin : text <+: padded 2 hours ++ ':' :: padded 2 minutes) :
    HasHoursMinutes text hours minutes ∨ (text = ['0'] ∧ hours = 0 ∧ minutes = 0) := by
  obtain ⟨a, b, hpadded⟩ := @exists_padded_two hours (by omega)
  have hcolon : ':' ≠ b := by
    rintro rfl
    exact @not_mem_padded 2 hours ':' (by decide) (by simp [hpadded])
  unfold readHoursMinutes? at hread
  split at hread
  · next h =>
    -- the digit is the first one of two that have its value
    obtain ⟨n, hn, heq⟩ := Option.map_eq_some_iff.1 hread
    cases heq
    obtain ⟨hdigits, rfl⟩ := readNat?_eq_some_iff.1 hn
    have hlt : digitsValue [h] < 10 := ofDigitChars_lt hdigits.2
    rw [padded_two_of_lt hlt] at hbegin
    right
    rw [(List.cons_prefix_cons.1 hbegin).1]
    exact ⟨rfl, by decide, rfl⟩
  · next h₁ h₂ =>
    obtain ⟨n, hn, heq⟩ := Option.map_eq_some_iff.1 hread
    cases heq
    obtain ⟨hdigits, rfl⟩ := readNat?_eq_some_iff.1 hn
    exact .inl (.hours ⟨hdigits, rfl⟩ hhours)
  · next h m₁ m₂ =>
    -- the second character is the second digit of the hours
    rw [hpadded] at hbegin
    have hsecond := (List.cons_prefix_cons.1 hbegin).2
    exact absurd (List.cons_prefix_cons.1 hsecond).1 hcolon
  · next h₁ h₂ m₁ m₂ _ =>
    -- the third character is the colon
    rw [hpadded] at hbegin
    have hthird := (List.cons_prefix_cons.1 (List.cons_prefix_cons.1 hbegin).2).2
    rw [(List.cons_prefix_cons.1 hthird).1] at hread
    unfold readHoursMinutes?.both at hread
    rw [@readNat?_eq_none [':', m₂] ':' (by decide) List.mem_cons_self] at hread
    split at hread
    next hnone => cases hnone
    · cases hread
  · next h₁ h₂ m₁ m₂ =>
    unfold readHoursMinutes?.both at hread
    split at hread
    next hh hm =>
      cases hread
      obtain ⟨hdigits, rfl⟩ := readNat?_eq_some_iff.1 hh
      obtain ⟨hdigits', rfl⟩ := readNat?_eq_some_iff.1 hm
      exact .inl (.minutes ⟨hdigits, rfl⟩ hhours ⟨hdigits', rfl⟩ hminutes)
    · cases hread
  · cases hread

/-! ## Signs -/

/-- Hours up to 23 and minutes up to 59 make an offset, which is below zero after a minus sign. -/
theorem ofHoursMinutes?_eq_some_iff {negative : Bool} {hours minutes : Nat} {offset : UtcOffset} :
    ofHoursMinutes? negative hours minutes = some offset ↔
      hours ≤ 23 ∧ minutes ≤ 59 ∧
        offset.minutes = if negative then -(hours * 60 + minutes : Int) else hours * 60 + minutes := by
  obtain ⟨value, hvalue⟩ := offset
  unfold ofHoursMinutes?
  split
  · next hrange =>
    simp only [Option.some.injEq, UtcOffset.mk.injEq, hrange, true_and]
    push_cast
    exact eq_comm
  · next hrange =>
    apply iff_of_false
    · intro h
      cases h
    · rintro ⟨hhours, hminutes, -⟩
      exact hrange ⟨hhours, hminutes⟩

/-- The canonical text of an offset has the hours and minutes that make it up. -/
theorem write_of_hoursMinutes {negative : Bool} {hours minutes : Nat} {offset : UtcOffset}
    (h : ofHoursMinutes? negative hours minutes = some offset) :
    offset.write = signOfMinutes offset.minutes :: (padded 2 hours ++ ':' :: padded 2 minutes) := by
  obtain ⟨-, hminutes, hvalue⟩ := ofHoursMinutes?_eq_some_iff.1 h
  have hdiv : offset.minutes.natAbs / 60 = hours := by
    split at hvalue <;> omega
  have hmod : offset.minutes.natAbs % 60 = minutes := by
    split at hvalue <;> omega
  rw [write, hdiv, hmod]
  rfl

/-- The sign in front of hours and minutes. -/
def signChar (negative : Bool) : Char := if negative then '-' else '+'

/-- An offset is read from a sign, and from hours and minutes after it. -/
theorem read?_eq_some_iff {text : List Char} {offset : UtcOffset} :
    read? text = some offset ↔
      ∃ negative rest hours minutes, text = signChar negative :: rest ∧
        readHoursMinutes? rest = some (hours, minutes) ∧
        ofHoursMinutes? negative hours minutes = some offset := by
  constructor
  · intro h
    unfold read? at h
    split at h
    · next rest =>
      obtain ⟨⟨hours, minutes⟩, hfields, hoffset⟩ := Option.bind_eq_some_iff.1 h
      exact ⟨false, rest, hours, minutes, rfl, hfields, hoffset⟩
    · next rest =>
      obtain ⟨⟨hours, minutes⟩, hfields, hoffset⟩ := Option.bind_eq_some_iff.1 h
      exact ⟨true, rest, hours, minutes, rfl, hfields, hoffset⟩
    · cases h
  · rintro ⟨negative, rest, hours, minutes, rfl, hfields, hoffset⟩
    cases negative
    · rw [signChar, if_neg (by decide), read?, hfields]
      exact hoffset
    · rw [signChar, if_pos rfl, read?, hfields]
      exact hoffset

/-- Hours and minutes of the form are read with the sign in front of them, and begin the canonical
text if the sign is the one that is written there. -/
theorem HasHoursMinutes.read?_eq {text : List Char} {hours minutes : Nat}
    (h : HasHoursMinutes text hours minutes) (negative : Bool) {offset : UtcOffset}
    (hvalue : offset.minutes =
      if negative then -(hours * 60 + minutes : Int) else hours * 60 + minutes)
    (hsign : signOfMinutes offset.minutes = signChar negative) :
    read? (signChar negative :: text) = some offset ∧
      signChar negative :: text <+: offset.write := by
  obtain ⟨hhours, hminutes⟩ := h.range
  have hmake := ofHoursMinutes?_eq_some_iff.2 ⟨hhours, hminutes, hvalue⟩
  constructor
  · exact read?_eq_some_iff.2 ⟨negative, text, hours, minutes, rfl, h.readHoursMinutes?_eq, hmake⟩
  · rw [write_of_hoursMinutes hmake, hsign]
    exact List.cons_prefix_cons.2 ⟨rfl, h.isPrefix⟩

/-- A designator of the form is read as the offset it stands for, and begins its canonical text. -/
theorem HasDesignatorForm.read?_eq {text : List Char} {minutes : Int}
    (h : HasDesignatorForm text minutes) {offset : UtcOffset} (hoffset : offset.minutes = minutes) :
    read? text = some offset ∧ text <+: offset.write := by
  cases h with
  | east h => exact h.read?_eq false hoffset (if_neg (by omega))
  | west h hne => exact h.read?_eq true hoffset (if_pos (by omega))

/-- What begins the canonical text of the offset it is read as is of the form, or is `+0`. -/
theorem hasDesignatorForm_of_isPrefix {text : List Char} {offset : UtcOffset}
    (hread : read? text = some offset) (hbegin : text <+: offset.write) :
    HasDesignatorForm text offset.minutes ∨ (text = ['+', '0'] ∧ offset = utc) := by
  obtain ⟨negative, rest, hours, minutes, rfl, hfields, hoffset⟩ := read?_eq_some_iff.1 hread
  obtain ⟨hhours, hminutes, hvalue⟩ := ofHoursMinutes?_eq_some_iff.1 hoffset
  rw [write_of_hoursMinutes hoffset] at hbegin
  obtain ⟨hsign, hrest⟩ := List.cons_prefix_cons.1 hbegin
  have hform := hasHoursMinutes_of_isPrefix hfields hhours hminutes hrest
  cases negative with
  | false =>
    rw [if_neg (by decide)] at hvalue
    rcases hform with hform | ⟨rfl, rfl, rfl⟩
    · left
      rw [hvalue]
      exact .east hform
    · right
      obtain ⟨value, hrange⟩ := offset
      obtain rfl : value = 0 := hvalue
      exact ⟨rfl, rfl⟩
  | true =>
    rw [if_pos rfl] at hvalue
    -- the canonical text has a minus sign only below zero
    have hneg : offset.minutes < 0 := by
      unfold signOfMinutes at hsign
      split at hsign
      · assumption
      · cases hsign
    rcases hform with hform | ⟨rfl, rfl, rfl⟩
    · left
      rw [hvalue]
      exact .west hform (by omega)
    · omega

/-- The minutes of a designator of the form are those of an offset. -/
theorem HasDesignatorForm.exists_offset {text : List Char} {minutes : Int}
    (h : HasDesignatorForm text minutes) : ∃ offset : UtcOffset, offset.minutes = minutes := by
  have hrange : -1440 < minutes ∧ minutes < 1440 := by
    cases h with
    | east h =>
      have hday := h.range
      omega
    | west h hne =>
      have hday := h.range
      omega
  exact ⟨⟨minutes, hrange⟩, rfl⟩

/-- A designator of the form has three characters or more. -/
theorem HasDesignatorForm.two_lt_length {text : List Char} {minutes : Int}
    (h : HasDesignatorForm text minutes) : 2 < text.length := by
  have htwo {rest : List Char} {hours minutes : Nat} (h : HasHoursMinutes rest hours minutes) :
      2 ≤ rest.length := by
    cases h with
    | hours hhours _ => exact Nat.le_of_eq hhours.2.symm
    | minutes hhours _ _ _ =>
      rw [List.length_append, hhours.2]
      omega
  cases h with
  | east h => exact Nat.succ_lt_succ (htwo h)
  | west h _ => exact Nat.succ_lt_succ (htwo h)

end UtcOffset

namespace Zone

open UtcOffset

/-! ## Designators -/

/-- A designator is accepted exactly if an offset is read from it, and it begins the text of that
offset. -/
theorem ofDesignator_eq_ok_iff {text : List Char} {zone : Zone} :
    ofDesignator text = .ok zone ↔
      ∃ offset, zone = .fixed offset ∧ read? text = some offset ∧ text <+: offset.write := by
  unfold ofDesignator
  cases hread : read? text with
  | none => simp
  | some offset =>
    simp only [List.isPrefixOf_iff_prefix]
    split
    · next hbegin => simp [hbegin, eq_comm]
    · next hbegin =>
      apply iff_of_false
      · intro h
        cases h
      · rintro ⟨offset', -, heq, hbegin'⟩
        cases heq
        exact hbegin hbegin'

/-- There is one error only. -/
theorem ofDesignator_eq_error_iff {text : List Char} {e : Error} :
    ofDesignator text = .error e ↔
      (∀ zone, ofDesignator text ≠ .ok zone) ∧ e = .unresolvedOffset text := by
  unfold ofDesignator
  cases hread : read? text with
  | none => simp [eq_comm]
  | some offset =>
    dsimp only
    split
    · simp
    · simp [eq_comm]

/-- What is accepted are the designators of the form, and `+0`. -/
theorem ofDesignator_eq_ok_iff_hasDesignatorForm {text : List Char} {zone : Zone} :
    ofDesignator text = .ok zone ↔
      ∃ offset, zone = .fixed offset ∧
        (HasDesignatorForm text offset.minutes ∨ (text = ['+', '0'] ∧ offset = UtcOffset.utc)) := by
  rw [ofDesignator_eq_ok_iff]
  constructor
  · rintro ⟨offset, rfl, hread, hbegin⟩
    exact ⟨offset, rfl, hasDesignatorForm_of_isPrefix hread hbegin⟩
  · rintro ⟨offset, rfl, hform | ⟨rfl, rfl⟩⟩
    · exact ⟨offset, rfl, hform.read?_eq rfl⟩
    · exact ⟨UtcOffset.utc, rfl, by decide, by decide⟩

/-- A designator names the zone of a fixed offset exactly if it is of the form `[+-]HH[:MM]`, where
a zero has no minus sign, and the offset is then the one that is written; any other text cannot be
resolved, and is the message of the error. The one exception is `+0`, which is read as UTC. -/
theorem ofDesignator_ok_iff_error_iff (text : List Char) :
    (text ≠ ['+', '0'] →
      (∀ zone, ofDesignator text = .ok zone ↔
        ∃ offset, zone = .fixed offset ∧ HasDesignatorForm text offset.minutes) ∧
      ∀ e, ofDesignator text = .error e ↔
        (¬ ∃ minutes, HasDesignatorForm text minutes) ∧ e = ⟨.timeZone, String.ofList text⟩) ∧
    ofDesignator ['+', '0'] = .ok (.fixed UtcOffset.utc) := by
  refine ⟨?_, by decide⟩
  intro hne
  have hok : ∀ zone, ofDesignator text = .ok zone ↔
      ∃ offset, zone = .fixed offset ∧ HasDesignatorForm text offset.minutes := by
    intro zone
    rw [ofDesignator_eq_ok_iff_hasDesignatorForm]
    simp [hne]
  refine ⟨hok, ?_⟩
  intro e
  rw [ofDesignator_eq_error_iff]
  apply and_congr_left
  rintro -
  constructor
  · rintro hnone ⟨minutes, hform⟩
    obtain ⟨offset, rfl⟩ := hform.exists_offset
    exact hnone _ ((hok _).2 ⟨offset, rfl, hform⟩)
  · intro hnone zone hzone
    obtain ⟨offset, -, hform⟩ := (hok zone).1 hzone
    exact hnone ⟨_, hform⟩

/-- Half an hour west has a minus sign, but zero has none; and one digit is no form of an hour. -/
theorem ofDesignator_ok_iff_error_iff_halfHour :
    "-00:30".toList ≠ ['+', '0'] ∧
      (∃ offset : UtcOffset, offset.minutes = -30 ∧ HasDesignatorForm "-00:30".toList offset.minutes) ∧
      (¬ ∃ minutes, HasDesignatorForm "-00:00".toList minutes) ∧
      ¬ ∃ minutes, HasDesignatorForm "+5:00".toList minutes := by
  have hwest : ofDesignator "-00:30".toList = .ok (.fixed ⟨-30, by decide⟩) := by decide
  have hzero : ofDesignator "-00:00".toList = .error ⟨.timeZone, "-00:00"⟩ := by decide
  have hdigit : ofDesignator "+5:00".toList = .error ⟨.timeZone, "+5:00"⟩ := by decide
  refine ⟨by decide, ?_, ?_, ?_⟩
  · obtain ⟨offset, heq, hform⟩ :=
      (((ofDesignator_ok_iff_error_iff "-00:30".toList).1 (by decide)).1 _).1 hwest
    cases heq
    exact ⟨_, rfl, hform⟩
  · exact ((((ofDesignator_ok_iff_error_iff "-00:00".toList).1 (by decide)).2 _).1 hzero).1
  · exact ((((ofDesignator_ok_iff_error_iff "+5:00".toList).1 (by decide)).2 _).1 hdigit).1

/-- A zero of one digit is resolved, and is not of the form. -/
theorem not_ofDesignator_eq_ok_iff_hasDesignatorForm :
    ofDesignator "+0".toList = .ok (.fixed UtcOffset.utc) ∧
      ¬ ∃ minutes, HasDesignatorForm "+0".toList minutes := by
  refine ⟨by decide, ?_⟩
  rintro ⟨minutes, hform⟩
  exact absurd hform.two_lt_length (by decide)

end Zone

end CivilTime
