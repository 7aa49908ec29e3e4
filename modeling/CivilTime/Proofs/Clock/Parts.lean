import CivilTime.Clock.Reader
import CivilTime.Proofs.Text.Number

/-!
# The parts of a time

A text is read in two steps. The first one finds the numbers of its parts, and is the same in every
mode (`HasParts`). The second one checks the numbers and adds them up, and here a time of day has two
conditions more than an interval (`InRange`). The sign is that of the text: an hour below zero needs
the minus sign in front, and so does a zero hour that counts as negative.
-/

set_option autoImplicit false

namespace CivilTime

namespace Text

/-- A number below zero has a minus sign, and one above zero has none. -/
theorem sign_of_readInt? {text : List Char} {x : Int} (h : readInt? text = some x) :
    (text.head? = some '-' → x ≤ 0) ∧ (text.head? ≠ some '-' → 0 ≤ x) := by
  obtain ⟨sign, digits, factor, hsign, hdigits, rfl, rfl⟩ := readInt?_eq_some_iff.1 h
  obtain ⟨c, rest, rfl, hc, -⟩ := hdigits.exists_eq_cons
  cases hsign with
  | none =>
    constructor
    · intro hhead
      simp only [List.nil_append, List.head?_cons, Option.some.injEq] at hhead
      rw [hhead] at hc
      exact absurd hc (by decide)
    · intro _
      omega
  | plus =>
    constructor
    · intro hhead
      simp at hhead
    · intro _
      omega
  | minus =>
    constructor
    · intro _
      omega
    · intro hhead
      simp at hhead

end Text

namespace Clock

open CivilTime.Text

/-! ## From the parts to the time -/

/-- The time has a minus sign: its hour has one, or the hour is zero and the text has one. -/
def IsNegative (signed : Bool) (hour : Int) : Prop := hour < 0 ∨ (hour = 0 ∧ signed = true)

instance (signed : Bool) (hour : Int) : Decidable (IsNegative signed hour) :=
  inferInstanceAs (Decidable (_ ∨ _))

/-- The numbers are parts of a time of the mode. -/
structure InRange (mode : Mode) (signed : Bool) (hour minute second : Int) : Prop where
  hour_lt : hour.natAbs < 2000000
  minute_range : 0 ≤ minute ∧ minute < 60
  second_range : 0 ≤ second ∧ second < 60
  day : mode = .timeOfDay → ¬ IsNegative signed hour ∧ hour < 24

/-- The nanoseconds of the parts, without the sign. -/
def sizeOfParts (hour minute second fraction : Int) : Int :=
  fraction + Fields.nanos ⟨hour.natAbs, minute, second, 0⟩

/-- The size of an hour is what is left of it without its sign. -/
theorem hour_without_sign (signed : Bool) (hour : Int) :
    (if IsNegative signed hour then -hour else hour) = (hour.natAbs : Int) := by
  unfold IsNegative
  split_ifs <;> omega

/-- What is asked of the parts of a time, in the order in which it is asked, and the size that is
answered. -/
theorem ofParts?_eq (mode : Mode) (signed : Bool) (hour minute second fraction : Int) :
    ofParts? mode signed hour minute second fraction =
      if IsNegative signed hour ∧ mode = .timeOfDay then none
      else if maxIntervalHours ≤ (hour.natAbs : Int) ∨ ¬ (0 ≤ minute ∧ minute < 60) ∨
          ¬ (0 ≤ second ∧ second < 60) then none
      else if mode = .timeOfDay ∧ 24 ≤ (hour.natAbs : Int) then none
      else some (if IsNegative signed hour then -sizeOfParts hour minute second fraction
        else sizeOfParts hour minute second fraction) := by
  rw [sizeOfParts, ← hour_without_sign signed]
  rfl

/-- Parts that are in range make a time, and others make none. -/
theorem ofParts?_eq_some_iff {mode : Mode} {signed : Bool} {hour minute second fraction nanos : Int} :
    ofParts? mode signed hour minute second fraction = some nanos ↔
      InRange mode signed hour minute second ∧
        nanos = if IsNegative signed hour then -sizeOfParts hour minute second fraction
          else sizeOfParts hour minute second fraction := by
  rw [ofParts?_eq]
  unfold maxIntervalHours
  constructor
  · intro h
    by_cases hnegative : IsNegative signed hour ∧ mode = .timeOfDay
    · rw [if_pos hnegative] at h
      cases h
    · rw [if_neg hnegative] at h
      split at h
      · cases h
      next hrange =>
        split at h
        · cases h
        next hday =>
          refine ⟨⟨by omega, by omega, by omega, ?_⟩, (Option.some.inj h).symm⟩
          intro hmode
          have hpositive : ¬ IsNegative signed hour := fun hneg => hnegative ⟨hneg, hmode⟩
          have hlt : ¬ 24 ≤ (hour.natAbs : Int) := fun hle => hday ⟨hmode, hle⟩
          exact ⟨hpositive, by omega⟩
  · rintro ⟨hrange, rfl⟩
    have hhour := hrange.hour_lt
    have hminute := hrange.minute_range
    have hsecond := hrange.second_range
    have hday : ¬ (mode = .timeOfDay ∧ 24 ≤ (hour.natAbs : Int)) := by
      rintro ⟨hmode, hle⟩
      obtain ⟨hnegative, hlt⟩ := hrange.day hmode
      unfold IsNegative at hnegative
      omega
    rw [if_neg fun h => (hrange.day h.2).1 h.1, if_neg (by omega), if_neg hday]

/-! ## From the text to the parts -/

/-- The first two separators cut a text in three. -/
theorem splitAtSeparator_eq_some_iff {sep : Char} {text hour minute second : List Char} :
    splitAtSeparator sep text = some (hour, minute, second) ↔
      text = hour ++ sep :: (minute ++ sep :: second) ∧ hour ≠ [] ∧ sep ∉ hour ∧ sep ∉ minute := by
  constructor
  · intro h
    unfold splitAtSeparator at h
    split at h
    · cases h
    next hhour =>
      split_ifs at h with hempty
      split at h
      · cases h
      next hminute =>
        cases h
        obtain ⟨rfl, hnotHour⟩ := cut_eq_some_iff.1 hhour
        obtain ⟨rfl, hnotMinute⟩ := cut_eq_some_iff.1 hminute
        exact ⟨rfl, hempty, hnotHour, hnotMinute⟩
  · rintro ⟨rfl, hempty, hhour, hminute⟩
    unfold splitAtSeparator
    simp only [cut_append hhour, if_neg hempty, cut_append hminute]

/-- The numbers of the parts of a text. -/
inductive HasParts : List Char → Int → Int → Int → Int → Prop
  | fields {text hourText minuteText secondText : List Char} {hour minute second fraction : Int}
      (hsplit : (splitAtSeparator ':' text).or (splitAtSeparator '.' text) =
        some (hourText, minuteText, secondText))
      (hhour : readInt32? hourText = some hour) (hminute : readInt32? minuteText = some minute)
      (hsecond : readSeconds? secondText = some (second, fraction)) :
      HasParts text hour minute second fraction

/-- What a text is read as is made of its parts. -/
theorem read?_eq_some_iff {mode : Mode} {text : List Char} {nanos : Int} :
    read? mode text = some nanos ↔
      ∃ hour minute second fraction, HasParts text hour minute second fraction ∧
        ofParts? mode (text.head? == some '-') hour minute second fraction = some nanos := by
  constructor
  · intro h
    unfold read? at h
    split at h
    · cases h
    next hsplit =>
      split at h
      next hhour hminute hsecond => exact ⟨_, _, _, _, .fields hsplit hhour hminute hsecond, h⟩
      · cases h
  · rintro ⟨hour, minute, second, fraction, ⟨hsplit, hhour, hminute, hsecond⟩, hparts⟩
    unfold read?
    simp only [hsplit, hhour, hminute, hsecond]
    exact hparts

/-- A time is answered exactly if the parts of its text give one. -/
theorem read_eq_ok_iff_read? {mode : Mode} {text : List Char} {nanos : Int} :
    read mode text = .ok nanos ↔ read? mode text = some nanos := by
  unfold read
  cases read? mode text <;> simp

/-- A text that is not read is the message of the error. -/
theorem read_eq_error_iff_read? {mode : Mode} {text : List Char} {e : Error} :
    read mode text = .error e ↔ read? mode text = none ∧ e = .malformed text := by
  unfold read
  cases read? mode text <;> simp [eq_comm]

/-- The hour begins the text. -/
theorem head?_of_split {text hour minute second : List Char}
    (h : (splitAtSeparator ':' text).or (splitAtSeparator '.' text) = some (hour, minute, second)) :
    hour.head? = text.head? := by
  have hhead {sep : Char} (hsplit : splitAtSeparator sep text = some (hour, minute, second)) :
      hour.head? = text.head? := by
    obtain ⟨rfl, hempty, -⟩ := splitAtSeparator_eq_some_iff.1 hsplit
    obtain ⟨c, rest, rfl⟩ := List.exists_cons_of_ne_nil hempty
    rfl
  rcases Option.or_eq_some_iff.1 h with hcolon | ⟨-, hpoint⟩
  · exact hhead hcolon
  · exact hhead hpoint

/-- The sign of the hour is that of the text. -/
theorem HasParts.hour_sign {text : List Char} {hour minute second fraction : Int}
    (h : HasParts text hour minute second fraction) :
    (text.head? = some '-' → hour ≤ 0) ∧ (text.head? ≠ some '-' → 0 ≤ hour) := by
  obtain ⟨hsplit, hhour, -, -⟩ := h
  have hsign := sign_of_readInt? (readInt32?_eq_some_iff.1 hhour).1
  rwa [head?_of_split hsplit] at hsign

/-- A time is negative exactly if its text begins with a minus sign, also where the hours are zero.
-/
theorem HasParts.isNegative_iff {text : List Char} {hour minute second fraction : Int}
    (h : HasParts text hour minute second fraction) :
    IsNegative (text.head? == some '-') hour ↔ text.head? = some '-' := by
  have hsign := h.hour_sign
  unfold IsNegative
  rw [beq_iff_eq]
  by_cases hhead : text.head? = some '-'
  · have hle := hsign.1 hhead
    simp only [hhead, and_true, iff_true]
    omega
  · have hle := hsign.2 hhead
    simp only [hhead, and_false, or_false, iff_false]
    omega

/-- What a text is read as, by its parts and the sign in front. -/
theorem read_eq_ok_iff_hasParts {mode : Mode} {text : List Char} {nanos : Int} :
    read mode text = .ok nanos ↔
      ∃ hour minute second fraction, HasParts text hour minute second fraction ∧
        InRange mode (text.head? == some '-') hour minute second ∧
        nanos = if text.head? = some '-' then -sizeOfParts hour minute second fraction
          else sizeOfParts hour minute second fraction := by
  rw [read_eq_ok_iff_read?, read?_eq_some_iff]
  constructor
  · rintro ⟨hour, minute, second, fraction, hparts, hsum⟩
    obtain ⟨hrange, hnanos⟩ := ofParts?_eq_some_iff.1 hsum
    simp only [hparts.isNegative_iff] at hnanos
    exact ⟨hour, minute, second, fraction, hparts, hrange, hnanos⟩
  · rintro ⟨hour, minute, second, fraction, hparts, hrange, hnanos⟩
    refine ⟨hour, minute, second, fraction, hparts, ofParts?_eq_some_iff.2 ⟨hrange, ?_⟩⟩
    simp only [hparts.isNegative_iff]
    exact hnanos

end Clock

end CivilTime
