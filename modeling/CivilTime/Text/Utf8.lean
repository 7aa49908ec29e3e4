/-!
# Bytes as UTF-8 text

Bytes that are no UTF-8 can be read too: every beginning of a character that is not carried on,
and every byte that begins none, reads as U+FFFD, the replacement character. A byte that ends such
a beginning is itself read anew, so ASCII is never swallowed. Main statements: ASCII reads as
itself wherever it stands (`decodeFrom_ascii`), and text in UTF-8 reads as itself
(`decodeUtf8_flatMap_utf8EncodeChar`).
-/

set_option autoImplicit false

namespace CivilTime.Text

/-- The character that stands for bytes that are no UTF-8. -/
def replacementChar : Char := '\uFFFD'

/-- The beginning of a character of several bytes. -/
structure CharStart where
  /-- The bits of the character so far. -/
  bits : Nat
  /-- The least byte that carries it on. -/
  lower : Nat
  /-- The largest byte that carries it on. -/
  upper : Nat
  /-- How many bytes come after that one. -/
  more : Nat
deriving DecidableEq, Repr

/-- The character that a first byte begins, if it begins one of several bytes. The bounds of the
second byte leave out encodings that are too long, surrogates, and numbers past the last
character. -/
def charStart? (b : Nat) : Option CharStart :=
  if 0xC2 ≤ b ∧ b ≤ 0xDF then some ⟨b - 0xC0, 0x80, 0xBF, 0⟩
  else if b = 0xE0 then some ⟨0, 0xA0, 0xBF, 1⟩
  else if b = 0xED then some ⟨0xD, 0x80, 0x9F, 1⟩
  else if 0xE1 ≤ b ∧ b ≤ 0xEF then some ⟨b - 0xE0, 0x80, 0xBF, 1⟩
  else if b = 0xF0 then some ⟨0, 0x90, 0xBF, 2⟩
  else if 0xF1 ≤ b ∧ b ≤ 0xF3 then some ⟨b - 0xF0, 0x80, 0xBF, 2⟩
  else if b = 0xF4 then some ⟨4, 0x80, 0x8F, 2⟩
  else none

/-- What a byte adds to the text where no character is begun, and what it begins. -/
def decodeFirst (b : Nat) : List Char × Option CharStart :=
  if b < 0x80 then ([Char.ofNat b], none)
  else
    match charStart? b with
    | some start => ([], some start)
    | none => ([replacementChar], none)

/-- What a byte adds to the text after the beginning of a character, if there is one, and what is
begun then. -/
def decodeByte : Option CharStart → Nat → List Char × Option CharStart
  | none, b => decodeFirst b
  | some start, b =>
    if start.lower ≤ b ∧ b ≤ start.upper then
      let bits := start.bits * 0x40 + (b - 0x80)
      match start.more with
      | 0 => ([Char.ofNat bits], none)
      | more + 1 => ([], some ⟨bits, 0x80, 0xBF, more⟩)
    else
      let (text, start) := decodeFirst b
      (replacementChar :: text, start)

/-- The text that bytes are after the beginning of a character, if there is one. -/
def decodeFrom : Option CharStart → List UInt8 → List Char
  | none, [] => []
  | some _, [] => [replacementChar]
  | start, b :: bytes =>
    (decodeByte start b.toNat).1 ++ decodeFrom (decodeByte start b.toNat).2 bytes

/-- The text that bytes are. -/
def decodeUtf8 (bytes : List UInt8) : List Char := decodeFrom none bytes

/-- The number of bytes of a text in UTF-8. -/
def byteCount : List Char → Nat
  | [] => 0
  | c :: text => c.utf8Size + byteCount text

/-- An ASCII byte reads as itself, and ends what was begun before it. -/
theorem decodeFrom_ascii (start : Option CharStart) {b : UInt8} (bytes : List UInt8)
    (hb : b.toNat < 0x80) (hs : ∀ s ∈ start, 0x80 ≤ s.lower) :
    decodeFrom start (b :: bytes) =
      (start.map fun _ => replacementChar).toList ++ Char.ofNat b.toNat :: decodeUtf8 bytes := by
  cases start with
  | none => simp [decodeFrom, decodeByte, decodeFirst, hb, decodeUtf8]
  | some s =>
    have hs := hs s rfl
    have h : ¬ (s.lower ≤ b.toNat ∧ b.toNat ≤ s.upper) := by omega
    simp [decodeFrom, decodeByte, decodeFirst, hb, h, decodeUtf8]

/-- A byte within the bounds carries a character on. -/
theorem decodeFrom_some {start : CharStart} {b : UInt8} (bytes : List UInt8)
    (h : start.lower ≤ b.toNat ∧ b.toNat ≤ start.upper) :
    decodeFrom (some start) (b :: bytes) =
      match start.more with
      | 0 => Char.ofNat (start.bits * 0x40 + (b.toNat - 0x80)) :: decodeFrom none bytes
      | more + 1 =>
        decodeFrom (some ⟨start.bits * 0x40 + (b.toNat - 0x80), 0x80, 0xBF, more⟩) bytes := by
  obtain ⟨bits, lower, upper, more⟩ := start
  cases more <;> simp [decodeFrom, decodeByte, h]

/-- A first byte of several begins a character. -/
theorem decodeFrom_none {start : CharStart} {b : UInt8} (bytes : List UInt8)
    (h : charStart? b.toNat = some start) :
    decodeFrom none (b :: bytes) = decodeFrom (some start) bytes := by
  have hb : ¬ b.toNat < 0x80 := by
    intro hb
    have hn : charStart? b.toNat = none := by
      unfold charStart?
      repeat rw [if_neg (by omega)]
    rw [hn] at h
    cases h
  simp [decodeFrom, decodeByte, decodeFirst, hb, h]

/-- The first two of three bytes of a character fit each other. -/
theorem charStart?_three {v : Nat} (h : 0x800 ≤ v) (h' : v ≤ 0xFFFF)
    (hv : v < 0xD800 ∨ 0xDFFF < v) :
    ∃ start, charStart? (v / 4096 % 16 + 224) = some start ∧ start.bits = v / 4096 ∧
      start.more = 1 ∧ start.lower ≤ v / 64 % 64 + 128 ∧ v / 64 % 64 + 128 ≤ start.upper := by
  unfold charStart?
  rw [if_neg (by omega)]
  by_cases h₀ : v / 4096 % 16 + 224 = 0xE0
  · refine ⟨_, if_pos h₀, ?_, rfl, ?_, ?_⟩ <;> dsimp only <;> omega
  rw [if_neg h₀]
  by_cases h₁ : v / 4096 % 16 + 224 = 0xED
  · refine ⟨_, if_pos h₁, ?_, rfl, ?_, ?_⟩ <;> dsimp only <;> omega
  rw [if_neg h₁]
  refine ⟨_, if_pos (by omega), ?_, rfl, ?_, ?_⟩ <;> dsimp only <;> omega

/-- The first two of four bytes of a character fit each other. -/
theorem charStart?_four {v : Nat} (h : 0xFFFF < v) (h' : v < 0x110000) :
    ∃ start, charStart? (v / 262144 % 8 + 240) = some start ∧ start.bits = v / 262144 ∧
      start.more = 2 ∧ start.lower ≤ v / 4096 % 64 + 128 ∧ v / 4096 % 64 + 128 ≤ start.upper := by
  unfold charStart?
  rw [if_neg (by omega), if_neg (by omega), if_neg (by omega), if_neg (by omega)]
  by_cases h₀ : v / 262144 % 8 + 240 = 0xF0
  · refine ⟨_, if_pos h₀, ?_, rfl, ?_, ?_⟩ <;> dsimp only <;> omega
  rw [if_neg h₀]
  by_cases h₁ : v / 262144 % 8 + 240 = 0xF4
  · refine ⟨_, by rw [if_neg (by omega), if_pos h₁], ?_, rfl, ?_, ?_⟩ <;> dsimp only <;> omega
  refine ⟨_, if_pos (by omega), ?_, rfl, ?_, ?_⟩ <;> dsimp only <;> omega

/-- A number below 256 is stored in a byte as it is. -/
theorem toNat_byte {n : Nat} (h : n < 256) : (UInt8.ofNat n).toNat = n :=
  UInt8.toNat_ofNat_of_lt' h

/-- A character in UTF-8 reads as itself. -/
theorem decodeFrom_utf8EncodeChar (c : Char) (bytes : List UInt8) :
    decodeFrom none (String.utf8EncodeChar c ++ bytes) = c :: decodeFrom none bytes := by
  have hc : c.val.toNat < 0xD800 ∨ (0xDFFF < c.val.toNat ∧ c.val.toNat < 0x110000) := c.valid
  have hofNat : ∀ n, n = c.val.toNat → Char.ofNat n = c := by
    intro n hn
    rw [hn]
    exact Char.ofNat_toNat c
  unfold String.utf8EncodeChar
  generalize c.val.toNat = v at hc hofNat
  simp only
  split
  · rw [List.singleton_append, decodeFrom_ascii none bytes (by rw [toNat_byte] <;> omega)
      (by simp), toNat_byte (by omega), hofNat v rfl]
    rfl
  split
  · have hs : charStart? (UInt8.ofNat (v / 64 % 32 + 192)).toNat =
        some ⟨v / 64 % 32 + 192 - 0xC0, 0x80, 0xBF, 0⟩ := by
      rw [toNat_byte (by omega), charStart?, if_pos (by omega)]
    rw [List.cons_append, List.singleton_append, decodeFrom_none _ hs,
      decodeFrom_some _ (by simp only; rw [toNat_byte (by omega)]; omega),
      toNat_byte (by omega)]
    simp only
    rw [hofNat _ (by omega)]
  split
  · obtain ⟨start, hs, hbits, hmore, hlower, hupper⟩ :=
      charStart?_three (v := v) (by omega) (by omega) (by omega)
    rw [← toNat_byte (n := v / 4096 % 16 + 224) (by omega)] at hs
    rw [List.cons_append, List.cons_append, List.singleton_append, decodeFrom_none _ hs,
      decodeFrom_some _ (by rw [toNat_byte (by omega)]; omega), hmore]
    simp only
    rw [decodeFrom_some _ (by simp only; rw [toNat_byte (by omega)]; omega),
      toNat_byte (by omega), toNat_byte (by omega)]
    simp only
    rw [hofNat _ (by omega)]
  · obtain ⟨start, hs, hbits, hmore, hlower, hupper⟩ :=
      charStart?_four (v := v) (by omega) (by omega)
    rw [← toNat_byte (n := v / 262144 % 8 + 240) (by omega)] at hs
    rw [List.cons_append, List.cons_append, List.cons_append, List.singleton_append,
      decodeFrom_none _ hs,
      decodeFrom_some _ (by rw [toNat_byte (by omega)]; omega), hmore]
    simp only
    rw [decodeFrom_some _ (by simp only; rw [toNat_byte (by omega)]; omega)]
    simp only
    rw [decodeFrom_some _ (by simp only; rw [toNat_byte (by omega)]; omega),
      toNat_byte (by omega), toNat_byte (by omega), toNat_byte (by omega)]
    simp only
    rw [hofNat _ (by omega)]

/-- Text in UTF-8 reads as itself. -/
theorem decodeUtf8_flatMap_utf8EncodeChar (text : List Char) :
    decodeUtf8 (text.flatMap String.utf8EncodeChar) = text := by
  unfold decodeUtf8
  induction text with
  | nil => rfl
  | cons c text ih => rw [List.flatMap_cons, decodeFrom_utf8EncodeChar, ih]

example : decodeUtf8 [0x3C, 0xC3, 0xA9, 0x3E] = "<é>".toList := by decide

example : decodeUtf8 [0x3C, 0xF0, 0x9F, 0x3E, 0xFF] = "<\uFFFD>\uFFFD".toList := by decide

end CivilTime.Text
