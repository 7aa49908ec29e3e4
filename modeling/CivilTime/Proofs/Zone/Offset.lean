import CivilTime.Proofs.Text.Decimal
import CivilTime.Zone.Basic
import Mathlib.Data.List.Basic

/-!
# Offsets come back from their texts

Both texts of an offset are read as the offset (`read?_writeOffsetMinutes`, `read?_write`), and
the short one is a beginning of the canonical one; so a zone is known by either
(`ofDesignator_writeOffsetMinutes`).
-/

set_option autoImplicit false

namespace CivilTime

open CivilTime.Text

namespace UtcOffset

/-- A number below a hundred is padded to two digits. -/
theorem exists_padded_two {n : Nat} (h : n < 100) : ∃ a b, padded 2 n = [a, b] :=
  List.length_eq_two.1 (length_padded (by decide) h)

/-- Two digits are read as hours. -/
theorem readHoursMinutes?_hours {hours : Nat} (h : hours < 100) :
    readHoursMinutes? (padded 2 hours) = some (hours, 0) := by
  have hread := readNat?_padded 2 hours
  obtain ⟨a, b, heq⟩ := exists_padded_two h
  rw [heq] at hread ⊢
  rw [readHoursMinutes?, hread]
  rfl

/-- Two digits, a colon and two digits are read as hours and minutes. -/
theorem readHoursMinutes?_hours_minutes {hours minutes : Nat} (h : hours < 100)
    (h' : minutes < 100) :
    readHoursMinutes? (padded 2 hours ++ ':' :: padded 2 minutes) = some (hours, minutes) := by
  have hread := readNat?_padded 2 hours
  have hread' := readNat?_padded 2 minutes
  obtain ⟨a, b, heq⟩ := exists_padded_two h
  obtain ⟨c, d, heq'⟩ := exists_padded_two h'
  rw [heq] at hread ⊢
  rw [heq'] at hread' ⊢
  simp only [List.cons_append, List.nil_append, readHoursMinutes?, readHoursMinutes?.both, hread,
    hread']

/-- The sign, the hours and the minutes of an offset make it up. -/
theorem ofHoursMinutes?_natAbs (offset : UtcOffset) :
    ofHoursMinutes? (decide (offset.minutes < 0)) (offset.minutes.natAbs / 60)
      (offset.minutes.natAbs % 60) = some offset := by
  obtain ⟨minutes, hrange⟩ := offset
  dsimp only
  rw [ofHoursMinutes?, dif_pos (by omega), Option.some.injEq, UtcOffset.mk.injEq]
  split
  · next hneg =>
    have := of_decide_eq_true hneg
    omega
  · next hneg =>
    have : ¬ minutes < 0 := fun hlt => hneg (decide_eq_true hlt)
    omega

/-- The sign that is written for minutes tells whether they are below zero. -/
theorem read?_signOfMinutes (minutes : Int) (text : List Char) :
    read? (signOfMinutes minutes :: text) =
      (readHoursMinutes? text).bind fun (h, m) => ofHoursMinutes? (decide (minutes < 0)) h m := by
  unfold signOfMinutes
  split
  · next hneg =>
    rw [decide_eq_true hneg]
    rfl
  · next hneg =>
    rw [decide_eq_false hneg]
    rfl

/-- An offset is read back from its canonical text. -/
theorem read?_write (offset : UtcOffset) : read? offset.write = some offset := by
  have hrange := offset.minutes_range
  rw [write, List.cons_append, read?_signOfMinutes,
    readHoursMinutes?_hours_minutes (by omega) (by omega), Option.bind_some]
  exact ofHoursMinutes?_natAbs offset

/-- The short text of an offset is the canonical one, or what is left of that without `:00`. -/
theorem writeOffsetMinutes_append (offset : UtcOffset) :
    writeOffsetMinutes offset.minutes = offset.write ∨
      (offset.minutes.natAbs % 60 = 0 ∧
        writeOffsetMinutes offset.minutes =
          signOfMinutes offset.minutes :: padded 2 (offset.minutes.natAbs / 60)) := by
  unfold writeOffsetMinutes write
  by_cases hwhole : offset.minutes % 60 = 0
  · refine Or.inr ⟨by omega, ?_⟩
    rw [if_pos hwhole, List.append_nil]
  · rw [if_neg hwhole]
    exact Or.inl rfl

/-- An offset is read back from its short text. -/
theorem read?_writeOffsetMinutes (offset : UtcOffset) :
    read? (writeOffsetMinutes offset.minutes) = some offset := by
  have hrange := offset.minutes_range
  rcases writeOffsetMinutes_append offset with heq | ⟨hwhole, heq⟩
  · rw [heq, read?_write]
  · have hoffset := ofHoursMinutes?_natAbs offset
    rw [hwhole] at hoffset
    rw [heq, read?_signOfMinutes, readHoursMinutes?_hours (by omega), Option.bind_some]
    exact hoffset

/-- The short text of an offset begins its canonical text. -/
theorem writeOffsetMinutes_isPrefixOf (offset : UtcOffset) :
    (writeOffsetMinutes offset.minutes).isPrefixOf offset.write = true := by
  rw [List.isPrefixOf_iff_prefix]
  rcases writeOffsetMinutes_append offset with heq | ⟨-, heq⟩
  · simp only [heq, List.prefix_rfl]
  · rw [heq, write]
    exact List.prefix_append _ _

end UtcOffset

/-- A zone is known by the short text of its offset. -/
theorem Zone.ofDesignator_writeOffsetMinutes (offset : UtcOffset) :
    ofDesignator (writeOffsetMinutes offset.minutes) = .ok (.fixed offset) := by
  simp only [ofDesignator, offset.read?_writeOffsetMinutes, offset.writeOffsetMinutes_isPrefixOf,
    if_true]

/-- After its sign, the short text of an offset is made of digits and colons. -/
theorem exists_writeOffsetMinutes_eq_cons (minutes : Int) :
    ∃ text, writeOffsetMinutes minutes = signOfMinutes minutes :: text ∧
      ∀ c, c.isDigit = false → c ≠ ':' → c ∉ text := by
  refine ⟨_, rfl, fun c hdigit hcolon => ?_⟩
  split <;> simp [not_mem_padded hdigit, hcolon]

end CivilTime
