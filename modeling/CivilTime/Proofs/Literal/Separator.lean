import CivilTime.Proofs.Literal.RoundTrip
import CivilTime.Proofs.Session.Run

/-!
# The separators of a timestamp

A space, a `T` or, in a dialect that has it, a dash may stand between the date and the time. The
first space of the whole text counts before any `T`, and any `T` before the dashes. Where neither
the time nor what tells the zone has a space or a `T`, each separator is found where it stands, and
it makes no difference which one is used.

The name of a zone follows a space, though, and so after a `T` or a dash it is this space that is
taken for the separator: such a timestamp is always refused (`readTimestamp_separator`).
-/

set_option autoImplicit false

namespace CivilTime

open CivilTime.Text

/-! ## What a timestamp is made of -/

/-- The characters that may stand between the date and the time. -/
def Dialect.IsSeparator (dialect : Dialect) (sep : Char) : Prop :=
  sep = ' ' ∨ sep = 'T' ∨ sep = '-' ∧ dialect.dashDateTimeSeparator = true

/-- The characters of a time, whichever of its forms it has. -/
def IsTimeChar (c : Char) : Prop := c.isDigit = true ∨ c = ':' ∨ c = '.'

/-- What tells the zone right after the time, if anything does: a `Z` or an offset, `±HH[:MM]`. -/
inductive IsZoneSuffix : List Char → Prop
  | none : IsZoneSuffix []
  | utc : IsZoneSuffix ['Z']
  | hours {sign h₁ h₂ : Char} (hsign : sign = '+' ∨ sign = '-') (hh₁ : h₁.isDigit = true)
      (hh₂ : h₂.isDigit = true) : IsZoneSuffix [sign, h₁, h₂]
  | minutes {sign h₁ h₂ m₁ m₂ : Char} (hsign : sign = '+' ∨ sign = '-')
      (hh₁ : h₁.isDigit = true) (hh₂ : h₂.isDigit = true) (hm₁ : m₁.isDigit = true)
      (hm₂ : m₂.isDigit = true) : IsZoneSuffix [sign, h₁, h₂, ':', m₁, m₂]

/-- The characters of a time are digits, colons and points only. -/
theorem not_mem_of_isTimeChar {text : List Char} (h : ∀ c ∈ text, IsTimeChar c) {x : Char}
    (hdigit : x.isDigit = false) (hcolon : x ≠ ':') (hpoint : x ≠ '.') : x ∉ text := by
  intro hmem
  obtain hx | hx | hx := h x hmem
  · rw [hx] at hdigit
    cases hdigit
  · exact hcolon hx
  · exact hpoint hx

/-- An offset or a `Z` has no characters but those of its form. -/
theorem IsZoneSuffix.not_mem {text : List Char} (h : IsZoneSuffix text) {x : Char}
    (hdigit : x.isDigit = false) (hutc : x ≠ 'Z') (hcolon : x ≠ ':') (heast : x ≠ '+')
    (hwest : x ≠ '-') : x ∉ text := by
  have hother {c : Char} (hc : c.isDigit = true) : x ≠ c := by
    rintro rfl
    rw [hc] at hdigit
    cases hdigit
  have hsigned {sign : Char} (hsign : sign = '+' ∨ sign = '-') : x ≠ sign := by
    obtain rfl | rfl := hsign
    · exact heast
    · exact hwest
  cases h with
  | none => exact List.not_mem_nil
  | utc => simp [hutc]
  | hours hsign hh₁ hh₂ => simp [hsigned hsign, hother hh₁, hother hh₂]
  | minutes hsign hh₁ hh₂ hm₁ hm₂ =>
    simp [hsigned hsign, hother hh₁, hother hh₂, hother hm₁, hother hm₂, hcolon]

/-! ## Where the date ends -/

/-- A date and a time are parted at the `T`, if no space follows. -/
theorem splitDateTime_letter (dialect : Dialect) (d : Date) {rest : List Char}
    (hspace : ' ' ∉ rest) :
    splitDateTime dialect (d.write ++ 'T' :: rest) = some (d.write, rest) := by
  have hdate : ' ' ∉ d.write := Date.not_mem_write (by decide) (by decide) d
  have hdate' : 'T' ∉ d.write := Date.not_mem_write (by decide) (by decide) d
  have hnone : ' ' ∉ d.write ++ 'T' :: rest := by simp [hdate, hspace]
  unfold splitDateTime
  rw [cut_eq_none hnone, cut_append hdate']

/-- A date and a time are parted at the third dash where the dialect has it, if neither a space nor
a `T` follows. -/
theorem splitDateTime_dash {dialect : Dialect} (h : dialect.dashDateTimeSeparator = true)
    (d : Date) {rest : List Char} (hspace : ' ' ∉ rest) (hletter : 'T' ∉ rest) :
    splitDateTime dialect (d.write ++ '-' :: rest) = some (d.write, rest) := by
  have hdate : ' ' ∉ d.write := Date.not_mem_write (by decide) (by decide) d
  have hdate' : 'T' ∉ d.write := Date.not_mem_write (by decide) (by decide) d
  have hnone : ' ' ∉ d.write ++ '-' :: rest := by simp [hdate, hspace]
  have hnone' : 'T' ∉ d.write ++ '-' :: rest := by simp [hdate', hletter]
  obtain ⟨c, year, hwrite, -, hplus, hyear⟩ := Date.exists_write_eq_cons d
  have hmonth : '-' ∉ padded 2 d.month.toNat := not_mem_padded (by decide)
  have hday : '-' ∉ padded 2 d.day.toNat := not_mem_padded (by decide)
  unfold splitDateTime
  rw [cut_eq_none hnone, cut_eq_none hnone']
  dsimp only
  rw [if_pos h, hwrite]
  simp only [List.cons_append, List.append_assoc]
  -- a minus sign of the year is skipped, so the dash is the third one either way
  by_cases hminus : c = '-'
  · subst hminus
    exact congrArg (Option.map fun halves => ('-' :: halves.1, halves.2))
      (cutNth_fields hyear hmonth hday rest)
  · have hyear' : '-' ∉ c :: year := by simp [Ne.symm hminus, hyear]
    split
    · next heq => exact absurd (List.cons.inj heq).1 hplus
    · next heq => exact absurd (List.cons.inj heq).1 hminus
    · exact cutNth_fields hyear' hmonth hday rest

/-- Every separator is found, unless a space or a `T` follows somewhere. -/
theorem splitDateTime_separator {dialect : Dialect} {sep : Char} (hsep : dialect.IsSeparator sep)
    (d : Date) {rest : List Char} (hspace : ' ' ∉ rest) (hletter : 'T' ∉ rest) :
    splitDateTime dialect (d.write ++ sep :: rest) = some (d.write, rest) := by
  obtain rfl | rfl | ⟨rfl, hdialect⟩ := hsep
  · exact splitDateTime_write dialect d rest
  · exact splitDateTime_letter dialect d hspace
  · exact splitDateTime_dash hdialect d hspace hletter

/-- With a name of a zone after them, a time and what stands before it count as the date. -/
theorem WrittenTimestamp.read_named (source : ZoneSource) (dialect : Dialect) {sep : Char}
    (hsep : sep.isDigit = false) (hspace : sep ≠ ' ') (d : Date) {time : List Char}
    (htime : ' ' ∉ time) (name : List Char) :
    read source dialect (d.write ++ sep :: (time ++ ' ' :: name)) =
      .error (.malformed (d.write ++ sep :: time)) := by
  have hbefore : ' ' ∉ d.write ++ sep :: time := by
    simp [Date.not_mem_write (c := ' ') (by decide) (by decide) d, hspace.symm, htime]
  have hcut : cut ' ' (d.write ++ sep :: time ++ ' ' :: name) = some (d.write ++ sep :: time, name) :=
    cut_append hbefore
  rw [List.append_assoc, List.cons_append] at hcut
  simp only [read, splitDateTime, hcut, Date.read_write_append hsep]

namespace Session

/-- Where nothing but a `Z` or an offset tells the zone, a timestamp is read in the same way with
every separator of the dialect. With the name of a zone only the space works: after any other
separator the text up to the name is refused as a date. -/
theorem readTimestamp_separator {dialect : Dialect} {sep : Char} (hsep : dialect.IsSeparator sep)
    (d : Date) {time : List Char} (htime : ∀ c ∈ time, IsTimeChar c) (wantOffset : Bool)
    (session : Session) :
    (∀ zone, IsZoneSuffix zone →
      readTimestamp dialect wantOffset (d.write ++ sep :: (time ++ zone)) session =
        readTimestamp dialect wantOffset (d.write ++ ' ' :: (time ++ zone)) session) ∧
    (sep ≠ ' ' → ∀ name,
      readTimestamp dialect wantOffset (d.write ++ sep :: (time ++ ' ' :: name)) session =
        (.error (.malformed (d.write ++ sep :: time)), session)) := by
  have hspace : ' ' ∉ time := not_mem_of_isTimeChar htime (by decide) (by decide) (by decide)
  have hletter : 'T' ∉ time := not_mem_of_isTimeChar htime (by decide) (by decide) (by decide)
  refine ⟨?_, ?_⟩
  · intro zone hzone
    have hspace' : ' ' ∉ time ++ zone := by
      simp [hspace, hzone.not_mem (x := ' ')]
    have hletter' : 'T' ∉ time ++ zone := by
      simp [hletter, hzone.not_mem (x := 'T')]
    have hread : ∀ source,
        WrittenTimestamp.read source dialect (d.write ++ sep :: (time ++ zone)) =
          WrittenTimestamp.read source dialect (d.write ++ ' ' :: (time ++ zone)) := by
      intro source
      rw [WrittenTimestamp.read, WrittenTimestamp.read,
        splitDateTime_separator hsep d hspace' hletter', splitDateTime_write]
    unfold readTimestamp
    simp only [hread]
  · intro hne name
    have hdigit : sep.isDigit = false := by
      obtain rfl | rfl | ⟨rfl, -⟩ := hsep
      · decide
      · decide
      · decide
    have hread := WrittenTimestamp.read_named session.context.source dialect hdigit hne d hspace name
    unfold readTimestamp
    rw [bind_eq]
    simp only [ask, hread]

/-- A `T` for the space, in a dialect without the dash. -/
theorem readTimestamp_separator_letter :
    (readTimestamp .standard true "2017-07-01T12:00:00-04".toList (.new ⟨.empty, .utc⟩)).1 =
      (readTimestamp .standard true "2017-07-01 12:00:00-04".toList (.new ⟨.empty, .utc⟩)).1 := by
  have hletter : (Date.pack 2017 7 1).write ++ 'T' :: ("12:00:00".toList ++ ['-', '0', '4']) =
      "2017-07-01T12:00:00-04".toList := by decide
  have hspace : (Date.pack 2017 7 1).write ++ ' ' :: ("12:00:00".toList ++ ['-', '0', '4']) =
      "2017-07-01 12:00:00-04".toList := by decide
  obtain ⟨hsame, -⟩ := @readTimestamp_separator .standard 'T' (.inr (.inl rfl)) (.pack 2017 7 1)
    "12:00:00".toList (by simp [IsTimeChar]) true (.new ⟨.empty, .utc⟩)
  rw [← hletter, ← hspace, hsame _ (.hours (.inr rfl) (by decide) (by decide))]

/-- With the name of a zone, the separators are not interchangeable: the letter is refused where the
space is read. -/
theorem not_readTimestamp_separator :
    (readTimestamp .standard true "2017-07-01 12:00:00 America/New_York".toList
        (.new ⟨newYork2017.source, .utc⟩)).1 =
      .ok (.timestampWithOffset (.pack 2017 7 1) 43200000000000 (-240)) ∧
    (readTimestamp .standard true "2017-07-01T12:00:00 America/New_York".toList
        (.new ⟨newYork2017.source, .utc⟩)).1 =
      .error (.malformed "2017-07-01T12:00:00".toList) := by
  decide +kernel

end Session

end CivilTime
