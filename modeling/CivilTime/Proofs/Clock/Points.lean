import CivilTime.Proofs.Clock.Parts

/-!
# Points in place of colons

A time can be written with points where it has colons otherwise. Colons are looked for first, and only
a text that cannot be cut at them is cut at points, where the point before the fraction is a point
like the two others. Hours and minutes without separators of either kind are told apart all the same,
and what stands behind the second separator is the same text. So both ways of writing a time have
the same parts (`hasParts_withPoints_iff`), and are read alike or not at all (`read_withPoints`).
-/

set_option autoImplicit false

namespace CivilTime.Clock

open CivilTime.Text

/-- The text with a point for each of its colons. -/
def withPoints (text : List Char) : List Char := text.map fun c => if c = ':' then '.' else c

/-- There is neither a colon nor a point in the text. -/
def HasNoSeparator (text : List Char) : Prop := ':' ∉ text ∧ '.' ∉ text

/-- The forms `H:M:S` and `H:M:S.F`. There are hours, but any other part may be empty, and a part
may be anything that has no separator in it. The fraction may have points. -/
inductive HasColons : List Char → Prop
  | whole {hour minute second : List Char} (hne : hour ≠ []) (hhour : HasNoSeparator hour)
      (hminute : HasNoSeparator minute) (hsecond : HasNoSeparator second) :
      HasColons (hour ++ ':' :: (minute ++ ':' :: second))
  | fraction {hour minute second fraction : List Char} (hne : hour ≠ [])
      (hhour : HasNoSeparator hour) (hminute : HasNoSeparator minute)
      (hsecond : HasNoSeparator second) (hfraction : ':' ∉ fraction) :
      HasColons (hour ++ ':' :: (minute ++ ':' :: (second ++ '.' :: fraction)))

/-- All that has to be known of the text after the second colon is that there is no third one. -/
theorem HasColons.exists_fields {text : List Char} (h : HasColons text) :
    ∃ hour minute rest, text = hour ++ ':' :: (minute ++ ':' :: rest) ∧ hour ≠ [] ∧
      HasNoSeparator hour ∧ HasNoSeparator minute ∧ ':' ∉ rest := by
  cases h with
  | whole hne hhour hminute hsecond => exact ⟨_, _, _, rfl, hne, hhour, hminute, hsecond.1⟩
  | fraction hne hhour hminute hsecond hfraction =>
    refine ⟨_, _, _, rfl, hne, hhour, hminute, ?_⟩
    simp [hsecond.1, hfraction]

/-- A text without colons stays as it is. -/
theorem withPoints_of_not_mem {text : List Char} (h : ':' ∉ text) : withPoints text = text := by
  induction text with
  | nil => rfl
  | cons c text ih =>
    simp only [List.mem_cons, not_or] at h
    rw [withPoints, List.map_cons, if_neg (Ne.symm h.1)]
    exact congrArg (c :: ·) (ih h.2)

/-- The two colons become the two points. -/
theorem withPoints_fields {hour minute rest : List Char} (hhour : ':' ∉ hour)
    (hminute : ':' ∉ minute) (hrest : ':' ∉ rest) :
    withPoints (hour ++ ':' :: (minute ++ ':' :: rest)) =
      hour ++ '.' :: (minute ++ '.' :: rest) := by
  have happend (before after : List Char) :
      withPoints (before ++ ':' :: after) = withPoints before ++ '.' :: withPoints after := by
    simp [withPoints]
  rw [happend, happend, withPoints_of_not_mem hhour, withPoints_of_not_mem hminute,
    withPoints_of_not_mem hrest]

/-- A separator that does not occur splits nothing. -/
theorem splitAtSeparator_eq_none {sep : Char} {text : List Char} (h : sep ∉ text) :
    splitAtSeparator sep text = none := by
  rw [splitAtSeparator, cut_eq_none h]

/-- Both texts are cut into the same three. -/
theorem split_withPoints {text : List Char} (h : HasColons text) :
    (splitAtSeparator ':' (withPoints text)).or (splitAtSeparator '.' (withPoints text)) =
      (splitAtSeparator ':' text).or (splitAtSeparator '.' text) := by
  obtain ⟨hour, minute, rest, rfl, hne, hhour, hminute, hrest⟩ := h.exists_fields
  have hcolons : splitAtSeparator ':' (hour ++ ':' :: (minute ++ ':' :: rest)) =
      some (hour, minute, rest) :=
    splitAtSeparator_eq_some_iff.2 ⟨rfl, hne, hhour.1, hminute.1⟩
  have hpoints : splitAtSeparator '.' (hour ++ '.' :: (minute ++ '.' :: rest)) =
      some (hour, minute, rest) :=
    splitAtSeparator_eq_some_iff.2 ⟨rfl, hne, hhour.2, hminute.2⟩
  have hnone : splitAtSeparator ':' (hour ++ '.' :: (minute ++ '.' :: rest)) = none := by
    apply splitAtSeparator_eq_none
    simp [hhour.1, hminute.1, hrest]
  rw [withPoints_fields hhour.1 hminute.1 hrest, hcolons, hnone, hpoints, Option.none_or,
    Option.some_or]

/-- Points for colons leave the parts of a time as they are. -/
theorem hasParts_withPoints_iff {text : List Char} (h : HasColons text)
    {hour minute second fraction : Int} :
    HasParts (withPoints text) hour minute second fraction ↔
      HasParts text hour minute second fraction := by
  constructor
  · rintro ⟨hsplit, hhour, hminute, hsecond⟩
    rw [split_withPoints h] at hsplit
    exact .fields hsplit hhour hminute hsecond
  · rintro ⟨hsplit, hhour, hminute, hsecond⟩
    rw [← split_withPoints h] at hsplit
    exact .fields hsplit hhour hminute hsecond

/-- The hours begin the text, and have no colon. -/
theorem head?_withPoints {text : List Char} (h : HasColons text) :
    (withPoints text).head? = text.head? := by
  obtain ⟨hour, minute, rest, rfl, hne, hhour, hminute, hrest⟩ := h.exists_fields
  obtain ⟨c, hour, rfl⟩ := List.exists_cons_of_ne_nil hne
  rw [withPoints_fields hhour.1 hminute.1 hrest]
  rfl

/-- A time with points for colons is accepted exactly if it is with colons, and with the same
answer. -/
theorem read_withPoints_eq_ok_iff {mode : Mode} {text : List Char} (h : HasColons text)
    {nanos : Int} : read mode (withPoints text) = .ok nanos ↔ read mode text = .ok nanos := by
  rw [read_eq_ok_iff_hasParts, read_eq_ok_iff_hasParts, head?_withPoints h]
  simp only [hasParts_withPoints_iff h]

/-- A text of the form `H:M:S` or `H:M:S.F` and the same text with points in place of the two colons
are read as the same time, or are both malformed, as a time of day and as an interval alike. -/
theorem read_withPoints {text : List Char} (h : HasColons text) (mode : Mode) :
    (∃ nanos, read mode text = .ok nanos ∧ read mode (withPoints text) = .ok nanos) ∨
      (read mode text = .error (.malformed text) ∧
        read mode (withPoints text) = .error (.malformed (withPoints text))) := by
  cases hread : read mode text with
  | ok nanos =>
    left
    exact ⟨nanos, rfl, (read_withPoints_eq_ok_iff h).2 hread⟩
  | error e =>
    right
    obtain ⟨-, rfl⟩ := read_eq_error_iff_read?.1 hread
    refine ⟨rfl, ?_⟩
    cases hpoints : read mode (withPoints text) with
    | ok nanos =>
      rw [(read_withPoints_eq_ok_iff h).1 hpoints] at hread
      cases hread
    | error e =>
      obtain ⟨-, rfl⟩ := read_eq_error_iff_read?.1 hpoints
      rfl

/-- A zero hour behind a minus sign, with a fraction; and minutes that are missing. -/
theorem read_withPoints_minusZero :
    (HasColons "-0:30:00.5".toList ∧ withPoints "-0:30:00.5".toList = "-0.30.00.5".toList ∧
      read .interval "-0:30:00.5".toList = .ok (-1800500000000) ∧
      read .interval "-0.30.00.5".toList = .ok (-1800500000000)) ∧
    (HasColons "1::é".toList ∧ read .timeOfDay "1..é".toList = .error (.malformed "1..é".toList)) := by
  have hparts : HasColons "-0:30:00.5".toList :=
    @HasColons.fraction "-0".toList "30".toList "00".toList "5".toList (by decide)
      ⟨by decide, by decide⟩ ⟨by decide, by decide⟩ ⟨by decide, by decide⟩ (by decide)
  have hempty : HasColons "1::é".toList :=
    @HasColons.whole "1".toList [] "é".toList (by decide) ⟨by decide, by decide⟩
      ⟨by decide, by decide⟩ ⟨by decide, by decide⟩
  have hpoints : withPoints "-0:30:00.5".toList = "-0.30.00.5".toList := by decide
  have hread : read .interval "-0:30:00.5".toList = .ok (-1800500000000) := by decide
  refine ⟨⟨hparts, hpoints, hread, ?_⟩, hempty, ?_⟩
  · rcases read_withPoints hparts .interval with ⟨nanos, hcolons, hsame⟩ | ⟨herror, -⟩
    · rw [hread] at hcolons
      cases hcolons
      rwa [hpoints] at hsame
    · rw [hread] at herror
      cases herror
  · rcases read_withPoints hempty .timeOfDay with ⟨nanos, hcolons, -⟩ | ⟨-, herror⟩
    · have hmalformed : read .timeOfDay "1::é".toList = .error (.malformed "1::é".toList) := by decide
      rw [hmalformed] at hcolons
      cases hcolons
    · have htext : withPoints "1::é".toList = "1..é".toList := by decide
      rwa [htext] at herror

end CivilTime.Clock
