import CivilTime.Proofs.Clock.Text

/-!
# Intervals and their texts

Every time has a text, and the intervals, which are shorter than two million hours, are exactly the
times that are read from it again (`read_write_interval`). The longer ones are refused with their text,
whether or not their hours still are a number of 32 bits. A minus sign before a text that begins with
a digit turns its time around.
-/

set_option autoImplicit false

namespace CivilTime.Clock

open CivilTime.Text

/-- Shorter than two million hours, of either sign. -/
def IsInterval (nanos : Int) : Prop :=
  -(maxIntervalHours * nanosPerHour) < nanos ∧ nanos < maxIntervalHours * nanosPerHour

instance (nanos : Int) : Decidable (IsInterval nanos) :=
  inferInstanceAs (Decidable (_ ∧ _))

/-- An interval is told by its whole hours: fewer than two million, to either side of zero. -/
theorem isInterval_iff {nanos : Int} :
    IsInterval nanos ↔ nanos.natAbs / 1000000000 / 3600 < 2000000 := by
  unfold IsInterval maxIntervalHours nanosPerHour
  omega

/-! ## Texts of times -/

/-- The hours of a text are those of its time, if they are a number at all. -/
theorem natAbs_of_readInt32?_hourText {nanos hour : Int}
    (h : readInt32? (hourText nanos) = some hour) :
    hour.natAbs = nanos.natAbs / 1000000000 / 3600 := by
  have hread := (readInt32?_eq_some_iff.1 h).1
  unfold hourText at hread
  split at hread
  · rw [List.cons_append, List.nil_append, readInt?_neg_padded, Option.some.injEq] at hread
    omega
  · rw [List.nil_append, readInt?_padded, Option.some.injEq] at hread
    omega

/-- What is written of a longer time is not read. -/
theorem read?_write_eq_none {nanos : Int} (always : Bool) (h : ¬ IsInterval nanos) :
    read? .interval (write nanos always) = none := by
  cases hread : read? .interval (write nanos always) with
  | none => rfl
  | some value =>
    obtain ⟨hour, minute, second, fraction, ⟨hsplit, hhour, -, -⟩, hparts⟩ := read?_eq_some_iff.1 hread
    have hlt := (ofParts?_eq_some_iff.1 hparts).1.hour_lt
    rw [splitAtSeparator_write, Option.some_or, Option.some.injEq, Prod.mk.injEq] at hsplit
    rw [← hsplit.1] at hhour
    rw [natAbs_of_readInt32?_hourText hhour] at hlt
    exact absurd (isInterval_iff.2 hlt) h

/-! ## A minus sign in front -/

/-- A minus sign in front of a text goes to its hour. -/
theorem splitAtSeparator_cons {sep first : Char} (hsep : sep ≠ '-') (hfirst : first ≠ sep)
    (rest : List Char) :
    splitAtSeparator sep ('-' :: first :: rest) =
      (splitAtSeparator sep (first :: rest)).map fun (hour, minute, second) =>
        ('-' :: hour, minute, second) := by
  cases h : splitAtSeparator sep (first :: rest) with
  | some fields =>
    obtain ⟨hour, minute, second⟩ := fields
    obtain ⟨htext, -, hhour, hminute⟩ := splitAtSeparator_eq_some_iff.1 h
    apply splitAtSeparator_eq_some_iff.2
    refine ⟨by rw [htext, List.cons_append], by simp, ?_, hminute⟩
    simp [hsep, hhour]
  | none =>
    cases hminus : splitAtSeparator sep ('-' :: first :: rest) with
    | none => rfl
    | some fields =>
      obtain ⟨hour, minute, second⟩ := fields
      obtain ⟨htext, hempty, hhour, hminute⟩ := splitAtSeparator_eq_some_iff.1 hminus
      obtain ⟨c, hour, rfl⟩ := List.exists_cons_of_ne_nil hempty
      rw [List.cons_append, List.cons.injEq] at htext
      -- the first character is no separator, and so the hour without the sign has it
      have hsplit : splitAtSeparator sep (first :: rest) = some (hour, minute, second) := by
        apply splitAtSeparator_eq_some_iff.2
        refine ⟨htext.2, ?_, fun hmem => hhour (List.mem_cons_of_mem c hmem), hminute⟩
        rintro rfl
        exact hfirst (List.cons.inj htext.2).1
      rw [h] at hsplit
      cases hsplit

/-- A minus sign before a text stays with the hours when the text is split. -/
theorem split_cons {first : Char} (hfirst : first.isDigit = true) {rest hour minute second : List Char}
    (h : (splitAtSeparator ':' (first :: rest)).or (splitAtSeparator '.' (first :: rest)) =
      some (hour, minute, second)) :
    (splitAtSeparator ':' ('-' :: first :: rest)).or (splitAtSeparator '.' ('-' :: first :: rest)) =
      some ('-' :: hour, minute, second) := by
  have hne {sep : Char} (hsep : sep.isDigit = false) : first ≠ sep := by
    rintro rfl
    rw [hfirst] at hsep
    cases hsep
  rw [splitAtSeparator_cons (by decide) (hne (by decide)),
    splitAtSeparator_cons (by decide) (hne (by decide)), ← Option.map_or, h]
  rfl

/-- A number that begins with a digit has its opposite behind a minus sign. -/
theorem readInt32?_minus {text : List Char} {c : Char} {x : Int} (hhead : text.head? = some c)
    (hc : c.isDigit = true) (h : readInt32? text = some x) :
    readInt32? ('-' :: text) = some (-x) := by
  obtain ⟨rest, rfl⟩ := List.head?_eq_some_iff.1 hhead
  obtain ⟨hread, hfits⟩ := readInt32?_eq_some_iff.1 h
  obtain ⟨sign, digits, factor, hsign, hdigits, htext, rfl⟩ := readInt?_eq_some_iff.1 hread
  have hfirst {sign' : Char} (hsign' : sign'.isDigit = false) : c :: rest ≠ sign' :: digits := by
    intro heq
    rw [(List.cons.inj heq).1, hsign'] at hc
    cases hc
  cases hsign with
  | none =>
    rw [htext, List.nil_append]
    apply readInt32?_eq
    · rw [Int.one_mul, ← Int.neg_one_mul]
      exact readInt?_sign_append .minus hdigits
    · unfold FitsInt32 at hfits ⊢
      omega
  | plus => exact absurd htext (hfirst (by decide))
  | minus => exact absurd htext (hfirst (by decide))

/-- A minus sign before the text of a time changes the sign of the hours and nothing else. -/
theorem HasParts.minus {first : Char} (hfirst : first.isDigit = true) {rest : List Char}
    {hour minute second fraction : Int} (h : HasParts (first :: rest) hour minute second fraction) :
    HasParts ('-' :: first :: rest) (-hour) minute second fraction := by
  obtain ⟨hsplit, hhour, hminute, hsecond⟩ := h
  have hhead := head?_of_split hsplit
  exact .fields (split_cons hfirst hsplit) (readInt32?_minus hhead hfirst hhour) hminute hsecond

/-- A minus sign before a digit turns the time of a text around. -/
theorem read_minus {first : Char} (hfirst : first.isDigit = true) {rest : List Char} {nanos : Int}
    (h : read .interval (first :: rest) = .ok nanos) :
    read .interval ('-' :: first :: rest) = .ok (-nanos) := by
  have hne : (first :: rest).head? ≠ some '-' := by
    intro hhead
    rw [List.head?_cons, Option.some.injEq] at hhead
    rw [hhead] at hfirst
    exact absurd hfirst (by decide)
  obtain ⟨hour, minute, second, fraction, hparts, hrange, hnanos⟩ := read_eq_ok_iff_hasParts.1 h
  rw [if_neg hne] at hnanos
  apply read_eq_ok_iff_hasParts.2
  refine ⟨-hour, minute, second, fraction, hparts.minus hfirst, ?_, ?_⟩
  · exact ⟨by rw [Int.natAbs_neg]; exact hrange.hour_lt, hrange.minute_range, hrange.second_range,
      fun hmode => by cases hmode⟩
  · rw [List.head?_cons, if_pos rfl, hnanos, sizeOfParts, sizeOfParts, Int.natAbs_neg]

/-! ## The whole range -/

/-- A time is read from its text exactly if it is an interval, and as a time of day if it is one; a
longer time is refused as malformed, with its text as the message. A minus sign before an interval
that begins with a digit gives the opposite interval. -/
theorem read_write_interval (nanos : Int) (always : Bool) :
    (IsInterval nanos → read .interval (write nanos always) = .ok nanos ∧
      (IsTimeOfDay nanos → read .timeOfDay (write nanos always) = .ok nanos)) ∧
    (¬ IsInterval nanos → ∃ e, read .interval (write nanos always) = .error e ∧
      e.kind = .malformed ∧ e.message = String.ofList (write nanos always)) ∧
    ∀ (first : Char) (rest : List Char) (value : Int), first.isDigit = true →
      read .interval (first :: rest) = .ok value →
      read .interval ('-' :: first :: rest) = .ok (-value) := by
  refine ⟨?_, ?_, ?_⟩
  · intro h
    have hsize := isInterval_iff.1 h
    constructor
    · apply read_eq_ok_iff_read?.2
      apply read?_write .interval always hsize
      intro hmode
      cases hmode
    · intro hday
      exact read_write always hday
  · intro h
    exact ⟨_, read_eq_error_iff_read?.2 ⟨read?_write_eq_none always h, rfl⟩, rfl, rfl⟩
  · intro first rest value hfirst h
    exact read_minus hfirst h

/-- A negative time of less than an hour, the smallest number of 64 bits, a time of day, and a zero
hour behind a minus sign. -/
theorem read_write_interval_belowHour :
    read .interval (write (-1500000) false) = .ok (-1500000) ∧
    (∃ e, read .interval (write (-9223372036854775808) true) = .error e ∧
      e.kind = .malformed ∧ e.message = String.ofList (write (-9223372036854775808) true)) ∧
    read .timeOfDay (write 86399999999999 false) = .ok 86399999999999 ∧
    read .interval ('-' :: '0' :: ":59:59.5".toList) = .ok (-3599500000000) := by
  refine ⟨?_, ?_, ?_, ?_⟩
  · exact ((read_write_interval (-1500000) false).1 (by decide)).1
  · exact (read_write_interval (-9223372036854775808) true).2.1 (by decide)
  · exact ((read_write_interval 86399999999999 false).1 (by decide)).2 (by decide)
  · exact (read_write_interval 0 false).2.2 '0' ":59:59.5".toList 3599500000000 (by decide) (by decide)

end CivilTime.Clock
