import CivilTime.Clock.Printer
import CivilTime.Proofs.Clock.Parts

/-!
# Times come back from their texts

The text of a time is its sign, its hours, minutes and seconds between colons, and possibly a
point and a fraction. A reader cuts it at the same places, fills up the fraction to nine digits,
and puts the sign before the sum of the parts (`read?_write`).
-/

set_option autoImplicit false

namespace CivilTime.Clock

open CivilTime.Text

/-! ## Fractions -/

/-- The nine digits of a fraction begin with what is written of them, and go on with zeros. -/
theorem exists_writeFraction_append {nanos : Nat} (h : nanos < 10 ^ 9) :
    ∃ k, writeFraction nanos ++ List.replicate k '0' = padded 9 nanos := by
  obtain ⟨k, hk⟩ := exists_trimZeros_append (padded 9 nanos)
  have hlen := congrArg List.length hk
  rw [length_padded (by decide) h, List.length_append, List.length_replicate] at hlen
  unfold writeFraction
  split
  · next hnil =>
    rw [hnil] at hk hlen
    refine ⟨8, ?_⟩
    rw [← hk, show k = 9 by simpa using hlen]
    rfl
  · exact ⟨k, hk⟩

/-- A fraction is written in digits. -/
theorem isDigit_of_mem_writeFraction {nanos : Nat} (h : nanos < 10 ^ 9) {c : Char}
    (hc : c ∈ writeFraction nanos) : c.isDigit = true := by
  obtain ⟨k, hk⟩ := exists_writeFraction_append h
  have hmem : c ∈ padded 9 nanos := by
    rw [← hk]
    exact List.mem_append_left _ hc
  exact isDigit_of_mem_padded hmem

/-- Zeros after a fraction fill it up to its nine digits again. -/
theorem take_writeFraction_append {nanos : Nat} (h : nanos < 10 ^ 9) :
    (writeFraction nanos ++ List.replicate 9 '0').take 9 = padded 9 nanos := by
  obtain ⟨k, hk⟩ := exists_writeFraction_append h
  have hlen := congrArg List.length hk
  rw [length_padded (by decide) h, List.length_append, List.length_replicate] at hlen
  rw [← hk, List.take_append, List.take_of_length_le (by omega), List.take_replicate,
    show min (9 - (writeFraction nanos).length) 9 = k by omega]

/-- A written fraction is read back, also without the zeros at its end. -/
theorem readFraction?_writeFraction {nanos : Nat} (h : nanos < 10 ^ 9) :
    readFraction? (writeFraction nanos) = some (nanos : Int) := by
  have hdigits : (writeFraction nanos).all Char.isDigit = true :=
    List.all_eq_true.2 fun _ => isDigit_of_mem_writeFraction h
  rw [readFraction?, if_pos hdigits, take_writeFraction_append h, ofDigitChars_padded]

/-! ## The parts of a text -/

/-- The text of a fraction with its point, or nothing. -/
def fractionText (nanos : Int) (always : Bool) : List Char :=
  if HasFraction nanos always then '.' :: writeFraction (nanos.natAbs % 1000000000) else []

/-- The text of the hours with the sign of the time. -/
def hourText (nanos : Int) : List Char :=
  (if nanos < 0 then ['-'] else []) ++ padded 2 (nanos.natAbs / 1000000000 / 3600)

/-- The text of a time is its hours, two digits of minutes, two of seconds, and the fraction. -/
theorem write_eq (nanos : Int) (always : Bool) :
    write nanos always =
      hourText nanos ++ ':' :: (padded 2 (nanos.natAbs / 1000000000 / 60 % 60) ++
        ':' :: (padded 2 (nanos.natAbs / 1000000000 % 60) ++ fractionText nanos always)) := by
  unfold write writeSeconds hourText fractionText
  simp [List.append_assoc]

/-- The colons of the time come first, whatever stands after it. -/
theorem splitAtSeparator_write_append (nanos : Int) (always : Bool) (more : List Char) :
    splitAtSeparator ':' (write nanos always ++ more) =
      some (hourText nanos, padded 2 (nanos.natAbs / 1000000000 / 60 % 60),
        padded 2 (nanos.natAbs / 1000000000 % 60) ++ fractionText nanos always ++ more) := by
  have hcolon : ':' ∉ hourText nanos := by
    unfold hourText
    split_ifs <;> simp [@not_mem_padded 2 _ ':' (by decide)]
  have hne : hourText nanos ≠ [] := by
    unfold hourText
    simp [padded_ne_nil]
  rw [write_eq, List.append_assoc, List.cons_append, List.append_assoc, List.cons_append,
    splitAtSeparator, cut_append hcolon]
  simp only [hne, if_false, cut_append (not_mem_padded (c := ':') (by decide))]

/-- The text of a time is split at its two colons. -/
theorem splitAtSeparator_write (nanos : Int) (always : Bool) :
    splitAtSeparator ':' (write nanos always) =
      some (hourText nanos, padded 2 (nanos.natAbs / 1000000000 / 60 % 60),
        padded 2 (nanos.natAbs / 1000000000 % 60) ++ fractionText nanos always) := by
  have hsplit := splitAtSeparator_write_append nanos always []
  rwa [List.append_nil, List.append_nil] at hsplit

/-- The hours are read back with their sign, if they fit in 32 bits. -/
theorem readInt32?_hourText {nanos : Int}
    (h : nanos.natAbs / 1000000000 / 3600 ≤ 2147483647) :
    readInt32? (hourText nanos) =
      some (if nanos < 0 then -((nanos.natAbs / 1000000000 / 3600 : Nat) : Int)
        else (nanos.natAbs / 1000000000 / 3600 : Nat)) := by
  unfold hourText
  split
  · refine readInt32?_eq (readInt?_neg_padded 2 _) ?_
    unfold FitsInt32
    omega
  · exact readInt32?_padded 2 h

/-- The seconds are read back, and with them the fraction. -/
theorem readSeconds?_write (nanos : Int) (always : Bool) :
    readSeconds? (padded 2 (nanos.natAbs / 1000000000 % 60) ++ fractionText nanos always) =
      some (((nanos.natAbs / 1000000000 % 60 : Nat) : Int),
        ((nanos.natAbs % 1000000000 : Nat) : Int)) := by
  have hsecond := readInt32?_padded 2 (n := nanos.natAbs / 1000000000 % 60) (by omega)
  have hsize : nanos.natAbs % 1000000000 < 10 ^ 9 := Nat.mod_lt _ (by decide)
  have hpoint : ∀ n, '.' ∉ padded 2 n := fun n => not_mem_padded (by decide)
  by_cases hfraction : HasFraction nanos always
  · rw [fractionText, if_pos hfraction, readSeconds?, cut_append (hpoint _)]
    simp only [hsecond, readFraction?_writeFraction hsize]
  · have hzero : nanos.natAbs % 1000000000 = 0 := by
      unfold HasFraction nanosPerSecond at hfraction
      omega
    rw [fractionText, if_neg hfraction, List.append_nil, readSeconds?, cut_eq_none (hpoint _),
      hzero]
    simp only [hsecond]
    rfl

/-- The text of a time begins with a minus sign exactly below zero. -/
theorem head?_write (nanos : Int) (always : Bool) :
    ((write nanos always).head? == some '-') = decide (nanos < 0) := by
  rw [write_eq]
  unfold hourText
  split
  · next hneg =>
    rw [decide_eq_true hneg]
    rfl
  · next hneg =>
    obtain ⟨c, text, heq, hc, -⟩ := exists_padded_eq_cons 2 (nanos.natAbs / 1000000000 / 3600)
    have hdash : c ≠ '-' := by
      rintro rfl
      exact absurd hc (by decide)
    rw [heq, decide_eq_false hneg]
    simpa using hdash

/-! ## The sum of the parts -/

/-- The parts of a time add up to it, within the limits of the mode. -/
theorem ofParts?_write (mode : Mode) {nanos : Int}
    (hsize : nanos.natAbs / 1000000000 / 3600 < 2000000)
    (hday : mode = .timeOfDay → IsTimeOfDay nanos) :
    ofParts? mode (decide (nanos < 0))
      (if nanos < 0 then -((nanos.natAbs / 1000000000 / 3600 : Nat) : Int)
        else (nanos.natAbs / 1000000000 / 3600 : Nat))
      (nanos.natAbs / 1000000000 / 60 % 60 : Nat) (nanos.natAbs / 1000000000 % 60 : Nat)
      (nanos.natAbs % 1000000000 : Nat) = some nanos := by
  -- with less than an hour only the sign of the text tells the sign of the time
  have hnegative : IsNegative (decide (nanos < 0))
      (if nanos < 0 then -((nanos.natAbs / 1000000000 / 3600 : Nat) : Int)
        else (nanos.natAbs / 1000000000 / 3600 : Nat)) ↔ nanos < 0 := by
    unfold IsNegative
    rw [decide_eq_true_iff]
    split <;> omega
  apply ofParts?_eq_some_iff.2
  refine ⟨⟨?_, by omega, by omega, ?_⟩, ?_⟩
  · split <;> omega
  · intro hmode
    obtain ⟨hnonneg, hlt⟩ := hday hmode
    unfold nanosPerDay at hlt
    rw [hnegative]
    split <;> omega
  · simp only [hnegative]
    unfold sizeOfParts Fields.nanos Fields.millis nanosPerMilli
    dsimp only
    split <;> omega

/-- A time within the limits of a mode comes back from its text. -/
theorem read?_write (mode : Mode) {nanos : Int} (always : Bool)
    (hsize : nanos.natAbs / 1000000000 / 3600 < 2000000)
    (hday : mode = .timeOfDay → IsTimeOfDay nanos) :
    read? mode (write nanos always) = some nanos := by
  rw [read?, splitAtSeparator_write, Option.some_or]
  simp only [readInt32?_hourText (Nat.le_trans (Nat.le_of_lt hsize) (by decide)),
    readInt32?_padded 2 (n := nanos.natAbs / 1000000000 / 60 % 60) (by omega), readSeconds?_write,
    head?_write]
  exact ofParts?_write mode hsize hday

/-- A time of day is read back from its text. -/
theorem read_write {nanos : Int} (always : Bool) (h : IsTimeOfDay nanos) :
    read .timeOfDay (write nanos always) = .ok nanos := by
  have hsize : nanos.natAbs / 1000000000 / 3600 < 2000000 := by
    unfold IsTimeOfDay nanosPerDay at h
    omega
  rw [read, read?_write .timeOfDay always hsize fun _ => h]

/-- In the seconds, past their first character, a digit or a point is all that may stand. -/
theorem readSeconds?_eq_none {text : List Char} {first c : Char} (hc : c.isDigit = false)
    (hpoint : c ≠ '.') (h : c ∈ text) : readSeconds? (first :: text) = none := by
  unfold readSeconds?
  cases hcut : cut '.' (first :: text) with
  | none =>
    dsimp only
    rw [readInt32?_eq_none hc h]
    rfl
  | some halves =>
    obtain ⟨second, fraction⟩ := halves
    have heq := eq_of_cutNth_eq_some hcut
    dsimp only
    cases second with
    | nil => rfl
    | cons head second =>
      obtain ⟨rfl, rfl⟩ := List.cons.inj heq
      -- the character is on one of the sides of the point, and spoils that side
      rcases List.mem_append.1 h with hsecond | hfraction
      · rw [readInt32?_eq_none hc hsecond]
      · have hmem : c ∈ fraction := (List.mem_cons.1 hfraction).resolve_left hpoint
        have hnone : readFraction? fraction = none := by
          refine if_neg fun hall => ?_
          rw [List.all_eq_true.1 hall c hmem] at hc
          cases hc
        rw [hnone]
        cases readInt32? (first :: second) <;> rfl

/-- A time is not read with anything but digits and points after it. -/
theorem read_write_append (mode : Mode) (nanos : Int) (always : Bool) {more : List Char} {c : Char}
    (hc : c.isDigit = false) (hpoint : c ≠ '.') (h : c ∈ more) :
    read mode (write nanos always ++ more) = .error (.malformed (write nanos always ++ more)) := by
  obtain ⟨first, digits, heq, -, -⟩ := exists_padded_eq_cons 2 (nanos.natAbs / 1000000000 % 60)
  have hmem : c ∈ digits ++ fractionText nanos always ++ more := List.mem_append_right _ h
  have hnone : read? mode (write nanos always ++ more) = none := by
    rw [read?, splitAtSeparator_write_append, Option.some_or, heq]
    dsimp only
    rw [List.cons_append, List.cons_append, readSeconds?_eq_none hc hpoint hmem]
    cases readInt32? (hourText nanos) with
    | none => rfl
    | some _ => cases readInt32? (padded 2 (nanos.natAbs / 1000000000 / 60 % 60)) <;> rfl
  rw [read, hnone]

/-- The text of a time that is not negative is made of digits, colons and points. -/
theorem not_mem_write {nanos : Int} (h : 0 ≤ nanos) (always : Bool) {c : Char}
    (hdigit : c.isDigit = false) (hcolon : c ≠ ':') (hpoint : c ≠ '.') :
    c ∉ write nanos always := by
  have hfraction : c ∉ fractionText nanos always := by
    unfold fractionText
    split
    · intro hmem
      rcases List.mem_cons.1 hmem with heq | hmem
      · exact hpoint heq
      · have hsize : nanos.natAbs % 1000000000 < 10 ^ 9 := Nat.mod_lt _ (by decide)
        rw [isDigit_of_mem_writeFraction hsize hmem] at hdigit
        cases hdigit
    · exact List.not_mem_nil
  rw [write_eq, hourText, if_neg (by omega)]
  simp [not_mem_padded hdigit, hcolon, hfraction]

end CivilTime.Clock
