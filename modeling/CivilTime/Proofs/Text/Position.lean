import CivilTime.Proofs.Text.Decimal
import CivilTime.Text.Utf8

/-!
# Positions and slices

A text may be taken apart by positions, counted in bytes: a search tells where a separator stands,
and the pieces are the slices between such positions. There is no slice from a position outside the
text or within a character (`isSome_splitAt?_iff`), and whoever asks for one has made a mistake.
Searching for a separator is cutting the text there (`nthPosition?_eq`), and the pieces of a text are
its slices between the numbers of bytes before and after them (`between?_eq`).
-/

set_option autoImplicit false

namespace CivilTime.Text

/-! ## Bytes -/

/-- The empty text has no bytes. -/
@[simp] theorem byteCount_nil : byteCount [] = 0 := rfl

/-- A character adds its bytes. -/
@[simp] theorem byteCount_cons (c : Char) (text : List Char) :
    byteCount (c :: text) = c.utf8Size + byteCount text := rfl

/-- The bytes of joined texts are those of both. -/
@[simp] theorem byteCount_append (before after : List Char) :
    byteCount (before ++ after) = byteCount before + byteCount after := by
  induction before with
  | nil => simp
  | cons c before ih => simp [ih, Nat.add_assoc]

/-- Only the empty text has no bytes. -/
theorem byteCount_eq_zero_iff {text : List Char} : byteCount text = 0 ↔ text = [] := by
  cases text with
  | nil => simp
  | cons c text =>
    have := c.utf8Size_pos
    simp only [byteCount_cons, reduceCtorEq, iff_false]
    omega

/-- Bytes are counted as the library counts those of a string. -/
theorem byteCount_toList (s : String) : byteCount s.toList = s.utf8ByteSize := by
  have hencode (text : List Char) : byteCount text = text.utf8Encode.size := by
    induction text with
    | nil => rfl
    | cons c text ih =>
      have hc : [c].utf8Encode.size = c.utf8Size := by
        rw [List.utf8Encode_singleton, List.size_toByteArray, String.length_utf8EncodeChar]
      rw [byteCount_cons, List.utf8Encode_cons, ByteArray.size_append, ← ih, hc]
  rw [hencode, String.utf8Encode_toList]
  rfl

/-! ## Slices -/

/-- The texts before and after a position, if a character begins or the text ends there. -/
def splitAt? : Nat → List Char → Option (List Char × List Char)
  | 0, text => some ([], text)
  | _ + 1, [] => none
  | n + 1, c :: text =>
    if c.utf8Size ≤ n + 1 then
      (splitAt? (n + 1 - c.utf8Size) text).map fun (before, after) => (c :: before, after)
    else none

/-- The text from a position on. -/
def from? (start : Nat) (text : List Char) : Option (List Char) :=
  (splitAt? start text).map Prod.snd

/-- The text up to a position. -/
def upTo? (stop : Nat) (text : List Char) : Option (List Char) :=
  (splitAt? stop text).map Prod.fst

/-- The text from one position up to another one, which is not before it. -/
def between? (start stop : Nat) (text : List Char) : Option (List Char) :=
  if start ≤ stop then (from? start text).bind (upTo? (stop - start)) else none

/-- Positions after a piece of the text are positions of the text after it. -/
theorem splitAt?_append (before after : List Char) (n : Nat) :
    splitAt? (byteCount before + n) (before ++ after) =
      (splitAt? n after).map fun halves => (before ++ halves.1, halves.2) := by
  induction before with
  | nil => simp
  | cons c before ih =>
    -- a character has a byte at least, so the position is a successor, as the definition wants it
    have hpos := c.utf8Size_pos
    obtain ⟨k, hk⟩ : ∃ k, byteCount (c :: before) + n = k + 1 :=
      Nat.exists_eq_succ_of_ne_zero (by rw [byteCount_cons]; omega)
    rw [byteCount_cons] at hk
    have hrest : k + 1 - c.utf8Size = byteCount before + n := by omega
    rw [byteCount_cons, hk, List.cons_append, splitAt?, if_pos (by omega), hrest, ih,
      Option.map_map]
    rfl

/-- A text is split at the byte where a piece of it ends. -/
theorem splitAt?_byteCount (before after : List Char) :
    splitAt? (byteCount before) (before ++ after) = some (before, after) := by
  have h := splitAt?_append before after 0
  rw [splitAt?, Option.map_some, List.append_nil] at h
  exact h

/-- A text can be split at exactly the positions that some characters of it lead to. -/
theorem splitAt?_eq_some_iff {n : Nat} {text before after : List Char} :
    splitAt? n text = some (before, after) ↔ text = before ++ after ∧ byteCount before = n := by
  constructor
  · intro h
    induction text generalizing n before after with
    | nil =>
      cases n with
      | zero =>
        cases h
        exact ⟨rfl, rfl⟩
      | succ n => cases h
    | cons c text ih =>
      cases n with
      | zero =>
        cases h
        exact ⟨rfl, rfl⟩
      | succ n =>
        rw [splitAt?] at h
        split at h
        next hle =>
          obtain ⟨⟨b, a⟩, hsplit, heq⟩ := Option.map_eq_some_iff.1 h
          cases heq
          obtain ⟨rfl, hcount⟩ := ih hsplit
          refine ⟨rfl, ?_⟩
          rw [byteCount_cons]
          omega
        · cases h
  · rintro ⟨rfl, rfl⟩
    exact splitAt?_byteCount before after

/-- These are the positions that are valid in the string of the text. -/
theorem isSome_splitAt?_iff (s : String) (n : Nat) :
    (splitAt? n s.toList).isSome ↔ String.Pos.Raw.IsValid s ⟨n⟩ := by
  rw [Option.isSome_iff_exists, String.Pos.Raw.isValid_iff_exists_append]
  constructor
  · rintro ⟨⟨before, after⟩, h⟩
    obtain ⟨htext, rfl⟩ := splitAt?_eq_some_iff.1 h
    refine ⟨String.ofList before, String.ofList after, ?_, ?_⟩
    · rw [← String.ofList_append, ← htext, String.ofList_toList]
    · rw [String.rawEndPos, ← byteCount_toList, String.toList_ofList]
  · rintro ⟨before, after, rfl, h⟩
    refine ⟨(before.toList, after.toList), splitAt?_eq_some_iff.2 ⟨String.toList_append, ?_⟩⟩
    rw [byteCount_toList]
    exact congrArg String.Pos.Raw.byteIdx h.symm

variable {text : List Char} {start stop : Nat}

/-- The slice from where a piece ends is what follows it. -/
theorem from?_eq (before after : List Char) (h : text = before ++ after)
    (hstart : start = byteCount before) : from? start text = some after := by
  rw [from?, splitAt?_eq_some_iff.2 ⟨h, hstart.symm⟩]
  rfl

/-- The slice up to where a piece ends is the piece. -/
theorem upTo?_eq (before after : List Char) (h : text = before ++ after)
    (hstop : stop = byteCount before) : upTo? stop text = some before := by
  rw [upTo?, splitAt?_eq_some_iff.2 ⟨h, hstop.symm⟩]
  rfl

/-- The slice between the ends of two pieces is what stands between them. -/
theorem between?_eq (before piece after : List Char) (h : text = before ++ (piece ++ after))
    (hstart : start = byteCount before) (hstop : stop = byteCount before + byteCount piece) :
    between? start stop text = some piece := by
  rw [between?, if_pos (by omega), from?_eq before (piece ++ after) h hstart]
  exact upTo?_eq piece after rfl (by omega)

/-- A slice that begins after a piece is a slice of what follows it. -/
theorem from?_append (before after : List Char) (n : Nat) :
    from? (byteCount before + n) (before ++ after) = from? n after := by
  rw [from?, splitAt?_append, Option.map_map]
  rfl

/-- One byte after a position a character begins only if the one at the position has one byte. -/
theorem from?_one (c : Char) (text : List Char) :
    from? 1 (c :: text) = if c.utf8Size = 1 then some text else none := by
  have hpos := c.utf8Size_pos
  by_cases hone : c.utf8Size = 1
  · rw [if_pos hone]
    exact from?_eq [c] text rfl (by simp [hone])
  · rw [if_neg hone, from?, splitAt?, if_neg (by omega), Option.map_none]

/-! ## Searches -/

/-- The position of the occurrence number `n` of `sep`, counted from zero. -/
def nthPosition? (sep : Char) : Nat → List Char → Option Nat
  | _, [] => none
  | 0, c :: text => if c = sep then some 0 else (nthPosition? sep 0 text).map (c.utf8Size + ·)
  | n + 1, c :: text =>
    (nthPosition? sep (if c = sep then n else n + 1) text).map (c.utf8Size + ·)

/-- The position of the first occurrence of `sep`. -/
def position? (sep : Char) (text : List Char) : Option Nat := nthPosition? sep 0 text

/-- The position of the first occurrence of `sep` from a position on. Nothing is found from a
position that has no slice. -/
def positionFrom? (sep : Char) (start : Nat) (text : List Char) : Option Nat :=
  (from? start text).bind fun rest => (position? sep rest).map (start + ·)

/-- A search finds where the text would be cut. -/
theorem nthPosition?_eq (sep : Char) (n : Nat) (text : List Char) :
    nthPosition? sep n text = (cutNth sep n text).map fun halves => byteCount halves.1 := by
  induction text generalizing n with
  | nil => cases n <;> rfl
  | cons c text ih =>
    cases n with
    | zero =>
      by_cases hc : c = sep
      · simp [nthPosition?, cutNth, hc]
      · rw [nthPosition?, cutNth, if_neg hc, if_neg hc, ih, Option.map_map, Option.map_map]
        rfl
    | succ n =>
      rw [nthPosition?, cutNth, ih, Option.map_map, Option.map_map]
      rfl

/-- A character is found at the byte where the text before it ends. -/
theorem position?_eq (sep : Char) (text : List Char) :
    position? sep text = (cut sep text).map fun halves => byteCount halves.1 :=
  nthPosition?_eq sep 0 text

/-- A character is found after a piece where the text between them ends. -/
theorem positionFrom?_eq {sep : Char} (before after : List Char) (h : text = before ++ after)
    (hstart : start = byteCount before) :
    positionFrom? sep start text =
      (cut sep after).map fun halves => start + byteCount halves.1 := by
  rw [positionFrom?, from?_eq before after h hstart, Option.bind_some, position?_eq, Option.map_map]
  rfl

/-- A search from the byte after a character finds nothing if the character has more bytes. -/
theorem positionFrom?_succ {sep : Char} (before : List Char) (c : Char) (after : List Char)
    (h : text = before ++ c :: after) (hstart : start = byteCount before) :
    positionFrom? sep (start + 1) text =
      if c.utf8Size = 1 then
        (cut sep after).map fun halves => start + 1 + byteCount halves.1
      else none := by
  split
  next hone => exact positionFrom?_eq (before ++ [c]) after (by simp [h]) (by simp [hstart, hone])
  next hmany =>
    rw [positionFrom?, h, hstart, from?_append, from?_one, if_neg hmany]
    rfl

/-- Beyond the end of a text nothing is found. -/
theorem positionFrom?_byteCount_succ (sep : Char) (text : List Char) :
    positionFrom? sep (byteCount text + 1) text = none := by
  have h := from?_append text [] 1
  rw [List.append_nil] at h
  rw [positionFrom?, h]
  rfl

/-! ## Slices at what was found -/

/-- A character that does not occur is not found. -/
theorem position?_eq_none {sep : Char} {text : List Char} (h : sep ∉ text) :
    position? sep text = none := by
  rw [position?_eq, cut_eq_none h, Option.map_none]

/-- The text up to the first separator, or all of it. -/
theorem upTo?_position? (sep : Char) (text : List Char) :
    upTo? ((position? sep text).getD (byteCount text)) text =
      some (text.takeWhile (· != sep)) := by
  by_cases h : sep ∈ text
  · obtain ⟨before, after, rfl, hbefore⟩ := List.eq_append_cons_of_mem h
    rw [position?_eq, cut_append hbefore, takeWhile_append_sep hbefore]
    exact upTo?_eq before (sep :: after) rfl rfl
  · rw [position?_eq_none h, takeWhile_of_not_mem h]
    exact upTo?_eq text [] (List.append_nil text).symm rfl

/-- A separator in the beginning of a text is where the whole text is taken apart. -/
theorem slices_at_mem {sep : Char} {head : List Char} (h : sep ∈ head) (tail : List Char) :
    ∃ p, position? sep head = some p ∧
      upTo? p (head ++ tail) = some ((head ++ tail).takeWhile (· != sep)) ∧
      from? p (head ++ tail) = some ((head ++ tail).dropWhile (· != sep)) := by
  obtain ⟨before, after, rfl, hbefore⟩ := List.eq_append_cons_of_mem h
  refine ⟨byteCount before, ?_, ?_, ?_⟩
  · rw [position?_eq, cut_append hbefore, Option.map_some]
  · rw [List.append_assoc, List.cons_append, takeWhile_append_sep hbefore]
    exact upTo?_eq before _ rfl rfl
  · rw [List.append_assoc, List.cons_append, dropWhile_append_sep hbefore]
    exact from?_eq before _ rfl rfl

/-! ## Characters of one byte -/

/-- A digit has one byte. -/
theorem utf8Size_of_isDigit {c : Char} (h : c.isDigit = true) : c.utf8Size = 1 := by
  rw [Char.utf8Size_eq_one_iff]
  simp only [Char.isDigit, Bool.and_eq_true, decide_eq_true_eq] at h
  exact UInt32.le_trans h.2 (by decide)

/-- In a text of digits every character is a byte. -/
theorem byteCount_of_isDigit {text : List Char} (h : ∀ c ∈ text, c.isDigit = true) :
    byteCount text = text.length := by
  induction text with
  | nil => rfl
  | cons c text ih =>
    rw [byteCount_cons, utf8Size_of_isDigit (h c List.mem_cons_self),
      ih fun x hx => h x (List.mem_cons_of_mem c hx), List.length_cons, Nat.add_comm]

/-- A padded number has one byte for each digit. -/
theorem byteCount_padded (width n : Nat) : byteCount (padded width n) = (padded width n).length :=
  byteCount_of_isDigit fun _ => isDigit_of_mem_padded

/-- A number begins with a character of one byte. -/
theorem readInt32?_cons_eq_none {c : Char} (h : c.utf8Size ≠ 1) (text : List Char) :
    readInt32? (c :: text) = none := by
  have hminus : c ≠ '-' := by
    rintro rfl
    exact h rfl
  have hplus : c ≠ '+' := by
    rintro rfl
    exact h rfl
  have hdigit : c.isDigit = false := by
    rw [← Bool.not_eq_true]
    exact fun hd => h (utf8Size_of_isDigit hd)
  simp [readInt32?, readInt?, readNat?, hminus, hplus, hdigit]

end CivilTime.Text
