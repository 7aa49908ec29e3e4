import CivilTime.Proofs.Clock.Range
import CivilTime.Proofs.Text.Reading

/-!
# Times in 64 bits

The reader of times computes with exact numbers. Here is the same reader with every product, sum and
opposite stored in 64 bits, one after the other, so that a number that does not fit would leave it
without an answer. It always has the answer of the exact reader (`readStored_eq`): the hour is a number
of 32 bits, the rounds of a fraction stay below the next power of ten, and hours are compared with their
limit before anything is multiplied by them.
-/

set_option autoImplicit false

namespace CivilTime.Clock

open CivilTime.Text

/-! ## Fractions -/

/-- The value of a digit. There are zeros after the last one. -/
def digitOf : Option Char → Nat
  | some c => c.toNat - '0'.toNat
  | none => 0

/-- The rounds that are left of a fraction. Each takes one digit more to the nanoseconds. -/
def fractionRounds : Nat → Int → List Char → Reading Int
  | 0, nanos, _ => .answer (.ok nanos)
  | rounds + 1, nanos, digits => do
    let tenfold ← .stored (nanos * 10)
    let nanos ← .stored (tenfold + digitOf digits.head?)
    fractionRounds rounds nanos digits.tail

/-- The next digit of a fraction is at most nine, and zero after the last. -/
theorem digitOf_head?_le {digits : List Char} (h : ∀ c ∈ digits, c.isDigit = true) :
    digitOf digits.head? ≤ 9 := by
  cases digits with
  | nil => simp [digitOf]
  | cons c digits => exact digit_le (h c List.mem_cons_self)

/-- The digits of one round are those of the next ones after it. -/
theorem ofDigitChars_round (rounds nanos : Nat) (digits : List Char) :
    Nat.ofDigitChars 10 ((digits ++ List.replicate (rounds + 1) '0').take (rounds + 1)) nanos =
      Nat.ofDigitChars 10 ((digits.tail ++ List.replicate rounds '0').take rounds)
        (nanos * 10 + digitOf digits.head?) := by
  cases digits with
  | nil =>
    simp only [List.nil_append, List.replicate_succ, List.take_succ_cons, Nat.ofDigitChars_cons,
      List.tail_nil, List.head?_nil, digitOf]
    rw [Nat.mul_comm]
    rfl
  | cons c digits =>
    simp only [List.cons_append, List.take_succ_cons, Nat.ofDigitChars_cons, List.tail_cons,
      List.head?_cons, digitOf]
    rw [Nat.mul_comm, List.take_append, List.take_append, List.take_replicate, List.take_replicate,
      Nat.min_eq_left (by omega), Nat.min_eq_left (by omega)]

/-- No round of a fraction overflows: what is stored stays below the power of ten of the rounds. -/
theorem fractionRounds_eq {rounds nanos : Nat} {digits : List Char}
    (hdigits : ∀ c ∈ digits, c.isDigit = true) (h : (nanos + 1) * 10 ^ rounds ≤ 10 ^ 9) :
    fractionRounds rounds nanos digits =
      .answer (.ok (Nat.ofDigitChars 10 ((digits ++ List.replicate rounds '0').take rounds) nanos : Nat)) := by
  induction rounds generalizing nanos digits with
  | zero => rw [List.take_zero, Nat.ofDigitChars_nil]; rfl
  | succ rounds ih =>
    have hdigit := digitOf_head?_le hdigits
    have hnext : (nanos * 10 + digitOf digits.head? + 1) * 10 ^ rounds ≤ 10 ^ 9 := by
      rw [Nat.pow_succ, Nat.mul_comm (10 ^ rounds), ← Nat.mul_assoc] at h
      apply Nat.le_trans _ h
      apply Nat.mul_le_mul_right
      omega
    have hsmall : nanos * 10 + digitOf digits.head? < 10 ^ 9 := by
      apply Nat.lt_of_lt_of_le (Nat.lt_succ_self _)
      exact Nat.le_trans (Nat.le_mul_of_pos_right _ (Nat.pow_pos (by decide))) hnext
    have htenfold : FitsInt64 ((nanos : Int) * 10) := by
      unfold FitsInt64
      omega
    have hsum : FitsInt64 ((nanos : Int) * 10 + digitOf digits.head?) := by
      unfold FitsInt64
      omega
    rw [fractionRounds, Reading.stored_of_fits htenfold, Reading.bind_answer_ok,
      Reading.stored_of_fits hsum, Reading.bind_answer_ok, ofDigitChars_round]
    exact_mod_cast ih (fun c hc => hdigits c (List.mem_of_mem_tail hc)) hnext

def fractionStored (text digits : List Char) : Reading Int :=
  if digits.all Char.isDigit then fractionRounds 9 0 digits else .found text none

/-- The fraction is read within 64 bits, with the answer of the exact reader. -/
theorem fractionStored_eq (text digits : List Char) :
    fractionStored text digits = .found text (readFraction? digits) := by
  unfold fractionStored readFraction?
  split
  · next hdigits => exact @fractionRounds_eq 9 0 digits (List.all_eq_true.1 hdigits) (by decide)
  · rfl

/-! ## Sums -/

/-- The nanoseconds of fields, a product or a sum at a time. -/
def Fields.nanosStored (fields : Fields) : Reading Int := do
  let hours ← .stored (fields.hour * nanosPerHour)
  let minutes ← .stored (fields.minute * nanosPerMinute)
  let sum ← .stored (hours + minutes)
  let seconds ← .stored (fields.second * nanosPerSecond)
  let sum ← .stored (sum + seconds)
  let milliseconds ← .stored (fields.millisecond * nanosPerMilli)
  .stored (sum + milliseconds)

/-- The nanoseconds of the largest hours, minutes and seconds that are allowed fit in 64 bits. -/
theorem Fields.nanosStored_eq {hour minute second : Int} (hhour : 0 ≤ hour ∧ hour < maxIntervalHours)
    (hminute : 0 ≤ minute ∧ minute < 60) (hsecond : 0 ≤ second ∧ second < 60) :
    nanosStored ⟨hour, minute, second, 0⟩ = .answer (.ok (nanos ⟨hour, minute, second, 0⟩)) := by
  unfold maxIntervalHours at hhour
  unfold nanosStored nanosPerHour nanosPerMinute nanosPerSecond nanosPerMilli
  dsimp only
  have hfits {x : Int} (h : 0 ≤ x ∧ x < 7200000000000000000) : FitsInt64 x := by
    unfold FitsInt64
    omega
  have hhours : FitsInt64 (hour * 3600000000000) := hfits (by omega)
  have hminutes : FitsInt64 (minute * 60000000000) := hfits (by omega)
  have hsum : FitsInt64 (hour * 3600000000000 + minute * 60000000000) := hfits (by omega)
  have hseconds : FitsInt64 (second * 1000000000) := hfits (by omega)
  have hsum' : FitsInt64 (hour * 3600000000000 + minute * 60000000000 + second * 1000000000) :=
    hfits (by omega)
  simp only [Reading.stored_of_fits hhours, Reading.stored_of_fits hminutes,
    Reading.stored_of_fits hsum, Reading.stored_of_fits hseconds, Reading.stored_of_fits hsum',
    Reading.bind_answer_ok, Int.zero_mul]
  rw [Reading.stored_of_fits (x := 0) (by decide), Reading.bind_answer_ok, Int.add_zero,
    Reading.stored_of_fits hsum', nanos, millis, nanosPerMilli]
  congr 2
  dsimp only
  omega

/-- The opposite of a number, if it is to be taken. -/
def oppositeStored (negative : Prop) [Decidable negative] (x : Int) : Reading Int :=
  if negative then .stored (-x) else .answer (.ok x)

/-- A size whose opposite fits may change its sign. -/
theorem oppositeStored_eq (negative : Prop) [Decidable negative] {x : Int} (h : FitsInt64 (-x)) :
    oppositeStored negative x = .answer (.ok (if negative then -x else x)) := by
  rw [oppositeStored, Reading.stored_of_fits h]
  split <;> rfl

/-- The time of the parts of a text, in the order of its computation. -/
def ofPartsStored (text : List Char) (mode : Mode) (hour minute second fraction : Int) :
    Reading Int :=
  let negative := IsNegative (text.head? == some '-') hour
  if negative ∧ mode = .timeOfDay then .found text none
  else do
    let size ← oppositeStored negative hour
    if maxIntervalHours ≤ size ∨ ¬ (0 ≤ minute ∧ minute < 60) ∨ ¬ (0 ≤ second ∧ second < 60) then
      .found text none
    else if mode = .timeOfDay ∧ 24 ≤ size then .found text none
    else do
      let sum ← Fields.nanosStored ⟨size, minute, second, 0⟩
      let nanos ← .stored (fraction + sum)
      oppositeStored negative nanos

/-- A time that is not too long is stored as it is, with and without its sign. -/
theorem sizeStored_eq (negative : Prop) [Decidable negative] {hour minute second fraction : Int}
    (hhour : 0 ≤ hour ∧ hour < maxIntervalHours) (hminute : 0 ≤ minute ∧ minute < 60)
    (hsecond : 0 ≤ second ∧ second < 60) (hfraction : 0 ≤ fraction ∧ fraction < nanosPerSecond) :
    (do
      let sum ← Fields.nanosStored ⟨hour, minute, second, 0⟩
      let nanos ← .stored (fraction + sum)
      oppositeStored negative nanos : Reading Int) =
      .answer (.ok (if negative then -(fraction + Fields.nanos ⟨hour, minute, second, 0⟩)
        else fraction + Fields.nanos ⟨hour, minute, second, 0⟩)) := by
  have hbounds : 0 ≤ fraction + Fields.nanos ⟨hour, minute, second, 0⟩ ∧
      fraction + Fields.nanos ⟨hour, minute, second, 0⟩ < 7200000000000000000 := by
    unfold maxIntervalHours at hhour
    unfold nanosPerSecond at hfraction
    unfold Fields.nanos Fields.millis nanosPerMilli
    dsimp only
    omega
  have hsum : FitsInt64 (fraction + Fields.nanos ⟨hour, minute, second, 0⟩) := by
    unfold FitsInt64
    omega
  have hopposite : FitsInt64 (-(fraction + Fields.nanos ⟨hour, minute, second, 0⟩)) := by
    unfold FitsInt64
    omega
  rw [Fields.nanosStored_eq hhour hminute hsecond, Reading.bind_answer_ok,
    Reading.stored_of_fits hsum, Reading.bind_answer_ok, oppositeStored_eq negative hopposite]

/-- Hours that fit in 32 bits and a fraction below a second lead to no overflow, whatever else the
parts are. -/
theorem ofPartsStored_eq {text : List Char} (mode : Mode) {hour minute second fraction : Int}
    (hhour : FitsInt32 hour) (hfraction : 0 ≤ fraction ∧ fraction < nanosPerSecond) :
    ofPartsStored text mode hour minute second fraction =
      .found text (ofParts? mode (text.head? == some '-') hour minute second fraction) := by
  have hopposite : FitsInt64 (-hour) := by
    unfold FitsInt32 at hhour
    unfold FitsInt64
    omega
  rw [ofParts?_eq, ofPartsStored, oppositeStored_eq _ hopposite, hour_without_sign, Reading.bind_answer_ok]
  split
  · rfl
  · split
    · rfl
    next hrange =>
      split
      · rfl
      · exact sizeStored_eq _ ⟨by omega, by omega⟩ (by omega) (by omega) hfraction

/-! ## The reader -/

def secondsStored (text secondText : List Char) : Reading (Int × Int) :=
  match cut '.' secondText with
  | none => do
    let second ← .found text (readInt32? secondText)
    return (second, 0)
  | some (secondText, fractionText) => do
    let second ← .found text (readInt32? secondText)
    let fraction ← fractionStored text fractionText
    return (second, fraction)

/-- The seconds and their fraction are read within 64 bits. -/
theorem secondsStored_eq (text secondText : List Char) :
    secondsStored text secondText = .found text (readSeconds? secondText) := by
  unfold secondsStored readSeconds?
  cases cut '.' secondText with
  | none =>
    dsimp only
    cases readInt32? secondText <;> rfl
  | some halves =>
    dsimp only
    rw [fractionStored_eq]
    cases readInt32? halves.1 <;> cases readFraction? halves.2 <;> rfl

/-- The time of a text, with every number of its computation stored. -/
def readStored (mode : Mode) (text : List Char) : Reading Int := do
  let (hourText, minuteText, secondText) ←
    .found text ((splitAtSeparator ':' text).or (splitAtSeparator '.' text))
  let hour ← .found text (readInt32? hourText)
  let minute ← .found text (readInt32? minuteText)
  let (second, fraction) ← secondsStored text secondText
  ofPartsStored text mode hour minute second fraction

/-- No number of the computation is too large for 64 bits, whatever the text. -/
theorem readStored_eq (mode : Mode) (text : List Char) :
    readStored mode text = .answer (read mode text) := by
  unfold readStored read read?
  cases (splitAtSeparator ':' text).or (splitAtSeparator '.' text) with
  | none => rfl
  | some fields =>
    obtain ⟨hourText, minuteText, secondText⟩ := fields
    dsimp only [Reading.found_some, Reading.bind_answer_ok]
    rw [secondsStored_eq]
    cases hhour : readInt32? hourText with
    | none => rfl
    | some hour =>
      cases readInt32? minuteText with
      | none => rfl
      | some minute =>
        cases hseconds : readSeconds? secondText with
        | none => rfl
        | some seconds =>
          dsimp only [Reading.found_some, Reading.bind_answer_ok]
          rw [ofPartsStored_eq mode (readInt32?_eq_some_iff.1 hhour).2 (readSeconds?_range hseconds)]
          cases ofParts? mode (text.head? == some '-') hour minute seconds.1 seconds.2 <;> rfl

end CivilTime.Clock
