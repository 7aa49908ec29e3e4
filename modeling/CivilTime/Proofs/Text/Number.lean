import CivilTime.Proofs.Text.Decimal

/-!
# The form of numbers

A number without a sign is read from one or more digits, and one with a sign from digits after at
most one sign. Nothing else is read as a number (`readInt?_eq_some_iff`), and so the texts that are
read can be told from their form alone. As many digits have one value each (`padded_digitsValue`).
-/

set_option autoImplicit false

namespace CivilTime.Text

/-- One or more ASCII digits. -/
def IsDigits (text : List Char) : Prop := text ≠ [] ∧ ∀ c ∈ text, c.isDigit = true

/-- The number that digits stand for, leading zeros included. -/
def digitsValue (text : List Char) : Nat := Nat.ofDigitChars 10 text 0

/-- At most one sign, and the factor that it stands for. -/
inductive IsSign : List Char → Int → Prop
  | none : IsSign [] 1
  | plus : IsSign ['+'] 1
  | minus : IsSign ['-'] (-1)

/-- Digits do not contain any other character. -/
theorem IsDigits.not_mem {text : List Char} (h : IsDigits text) {c : Char}
    (hc : c.isDigit = false) : c ∉ text := by
  intro hmem
  rw [h.2 c hmem] at hc
  cases hc

/-- Digits have a first digit. -/
theorem IsDigits.exists_eq_cons {text : List Char} (h : IsDigits text) :
    ∃ c rest, text = c :: rest ∧ c.isDigit = true ∧ ∀ x ∈ rest, x.isDigit = true := by
  obtain ⟨c, rest, rfl⟩ := List.exists_cons_of_ne_nil h.1
  exact ⟨c, rest, rfl, h.2 c List.mem_cons_self, fun x hx => h.2 x (List.mem_cons_of_mem c hx)⟩

/-! ## The value of digits -/

/-- The value of a digit is at most nine. -/
theorem digit_le {c : Char} (h : c.isDigit = true) : c.toNat - '0'.toNat ≤ 9 := by
  simp only [Char.isDigit, Bool.and_eq_true, decide_eq_true_eq] at h
  have hupper : c.toNat ≤ 57 := h.2
  change c.toNat - 48 ≤ 9
  omega

/-- Digits of one value are the same. -/
theorem eq_of_digit_eq {c d : Char} (hc : c.isDigit = true) (hd : d.isDigit = true)
    (h : c.toNat - '0'.toNat = d.toNat - '0'.toNat) : c = d := by
  simp only [Char.isDigit, Bool.and_eq_true, decide_eq_true_eq] at hc hd
  have hlower : 48 ≤ c.toNat := hc.1
  have hlower' : 48 ≤ d.toNat := hd.1
  change c.toNat - 48 = d.toNat - 48 at h
  apply Char.toNat_inj.1
  omega

/-- A number has fewer digits than the next power of ten. -/
theorem ofDigitChars_lt {text : List Char} (h : ∀ c ∈ text, c.isDigit = true) :
    Nat.ofDigitChars 10 text 0 < 10 ^ text.length := by
  induction text with
  | nil => simp [Nat.ofDigitChars_nil]
  | cons c text ih =>
    have hc := digit_le (h c List.mem_cons_self)
    have hrest := ih fun x hx => h x (List.mem_cons_of_mem c hx)
    rw [Nat.ofDigitChars_cons, Nat.mul_zero, Nat.zero_add, Nat.ofDigitChars_eq_ofDigitChars_zero,
      List.length_cons, Nat.pow_succ]
    have hfirst := Nat.mul_le_mul_left (10 ^ text.length) hc
    omega

/-- As many digits have the same value only if they are the same. -/
theorem eq_of_ofDigitChars_eq {a b : List Char} (ha : ∀ c ∈ a, c.isDigit = true)
    (hb : ∀ c ∈ b, c.isDigit = true) (hlen : a.length = b.length)
    (h : Nat.ofDigitChars 10 a 0 = Nat.ofDigitChars 10 b 0) : a = b := by
  induction a generalizing b with
  | nil => exact (List.eq_nil_of_length_eq_zero hlen.symm).symm
  | cons c a ih =>
    cases b with
    | nil => cases hlen
    | cons d b =>
      simp only [List.length_cons, Nat.add_right_cancel_iff] at hlen
      simp only [List.mem_cons, forall_eq_or_imp] at ha hb
      have hlta := ofDigitChars_lt ha.2
      have hltb := ofDigitChars_lt hb.2
      rw [Nat.ofDigitChars_cons, Nat.ofDigitChars_cons, Nat.mul_zero, Nat.zero_add, Nat.zero_add,
        @Nat.ofDigitChars_eq_ofDigitChars_zero a, @Nat.ofDigitChars_eq_ofDigitChars_zero b] at h
      rw [hlen] at h hlta
      -- the first digit is the quotient by the power of ten, and the others are the remainder
      have hpow : 0 < 10 ^ b.length := Nat.pow_pos (by decide)
      have hfirst : c.toNat - '0'.toNat = d.toNat - '0'.toNat := by
        have hdiv := congrArg (· / 10 ^ b.length) h
        simpa only [Nat.mul_add_div hpow, Nat.div_eq_of_lt hlta, Nat.div_eq_of_lt hltb,
          Nat.add_zero] using hdiv
      rw [hfirst] at h
      rw [eq_of_digit_eq ha.1 hb.1 hfirst, ih ha.2 hb.2 hlen (Nat.add_left_cancel h)]

/-- Digits are the padded digits of their value. -/
theorem padded_digitsValue {text : List Char} (h : IsDigits text) :
    padded text.length (digitsValue text) = text := by
  have hlen : (padded text.length (digitsValue text)).length = text.length :=
    length_padded (List.length_pos_iff.2 h.1) (ofDigitChars_lt h.2)
  exact eq_of_ofDigitChars_eq (fun _ => isDigit_of_mem_padded) h.2 hlen (ofDigitChars_padded _ _)

/-! ## What is cut and what is read -/

/-- A cut is made at the first separator. -/
theorem cut_eq_some_iff {sep : Char} {text before after : List Char} :
    cut sep text = some (before, after) ↔ text = before ++ sep :: after ∧ sep ∉ before := by
  constructor
  · intro h
    refine ⟨eq_of_cutNth_eq_some h, ?_⟩
    induction text generalizing before with
    | nil => simp [cut, cutNth] at h
    | cons c text ih =>
      unfold cut cutNth at h
      split_ifs at h with hc
      · cases h
        exact List.not_mem_nil
      · obtain ⟨⟨b, a⟩, hcut, heq⟩ := Option.map_eq_some_iff.1 h
        cases heq
        simp [Ne.symm hc, ih hcut]
  · rintro ⟨rfl, hbefore⟩
    exact cut_append hbefore

/-- A number without a sign is one digit or more, and is read as their value. -/
theorem readNat?_eq_some_iff {text : List Char} {n : Nat} :
    readNat? text = some n ↔ IsDigits text ∧ n = digitsValue text := by
  have hdigits : (text ≠ [] ∧ text.all Char.isDigit = true) ↔ IsDigits text := by
    rw [List.all_eq_true, IsDigits]
  by_cases h : IsDigits text
  · rw [readNat?, if_pos (hdigits.2 h), Option.some.injEq, eq_comm, and_iff_right h, digitsValue]
  · rw [readNat?, if_neg (mt hdigits.1 h)]
    exact iff_of_false (fun heq => by cases heq) fun hform => h hform.1

/-- A sign tells what becomes of the number after it. -/
theorem readInt?_sign_append {sign digits : List Char} {factor : Int} (hsign : IsSign sign factor)
    (hdigits : IsDigits digits) : readInt? (sign ++ digits) = some (factor * digitsValue digits) := by
  have hread : readNat? digits = some (digitsValue digits) :=
    readNat?_eq_some_iff.2 ⟨hdigits, rfl⟩
  cases hsign with
  | none =>
    obtain ⟨c, rest, rfl, hc, -⟩ := hdigits.exists_eq_cons
    rw [List.nil_append, readInt?_of_head hc, hread, Int.one_mul]
    rfl
  | plus =>
    rw [List.cons_append, List.nil_append, readInt?, hread, Int.one_mul]
    rfl
  | minus =>
    rw [List.cons_append, List.nil_append, readInt?, hread, Int.neg_one_mul]
    rfl

/-- What is read as a number is digits after at most one sign. -/
theorem exists_sign_of_readInt? {text : List Char} {x : Int} (h : readInt? text = some x) :
    ∃ sign digits factor, IsSign sign factor ∧ IsDigits digits ∧ text = sign ++ digits := by
  unfold readInt? at h
  split at h
  · next digits =>
    cases hread : readNat? digits with
    | none => rw [hread] at h; cases h
    | some n => exact ⟨['-'], digits, -1, .minus, (readNat?_eq_some_iff.1 hread).1, rfl⟩
  · next digits =>
    cases hread : readNat? digits with
    | none => rw [hread] at h; cases h
    | some n => exact ⟨['+'], digits, 1, .plus, (readNat?_eq_some_iff.1 hread).1, rfl⟩
  · cases hread : readNat? text with
    | none => rw [hread] at h; cases h
    | some n => exact ⟨[], text, 1, .none, (readNat?_eq_some_iff.1 hread).1, rfl⟩

/-- A number is read from at most one sign and the digits after it, and from nothing else. -/
theorem readInt?_eq_some_iff {text : List Char} {x : Int} :
    readInt? text = some x ↔
      ∃ sign digits factor, IsSign sign factor ∧ IsDigits digits ∧ text = sign ++ digits ∧
        x = factor * digitsValue digits := by
  constructor
  · intro h
    obtain ⟨sign, digits, factor, hsign, hdigits, rfl⟩ := exists_sign_of_readInt? h
    rw [readInt?_sign_append hsign hdigits] at h
    exact ⟨sign, digits, factor, hsign, hdigits, rfl, (Option.some.inj h).symm⟩
  · rintro ⟨sign, digits, factor, hsign, hdigits, rfl, rfl⟩
    exact readInt?_sign_append hsign hdigits

/-- A number is read for 32 bits exactly if it is read, and fits. -/
theorem readInt32?_eq_some_iff {text : List Char} {x : Int} :
    readInt32? text = some x ↔ readInt? text = some x ∧ FitsInt32 x := by
  rw [readInt32?, Option.filter_eq_some_iff, decide_eq_true_iff]

end CivilTime.Text
