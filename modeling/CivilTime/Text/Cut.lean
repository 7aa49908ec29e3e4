/-!
# Cutting a text at a separator

Readers take a text apart at its separators, from the left. A cut names the occurrence it is made
at, and hands back the text before and the text after it. Main statement: a cut loses the
separator and nothing else (`eq_of_cutNth_eq_some`).
-/

set_option autoImplicit false

namespace CivilTime.Text

/-- The texts before and after the occurrence number `n` of `sep`, counted from zero. -/
def cutNth (sep : Char) : Nat → List Char → Option (List Char × List Char)
  | _, [] => none
  | 0, c :: text =>
    if c = sep then some ([], text)
    else (cutNth sep 0 text).map fun (before, after) => (c :: before, after)
  | n + 1, c :: text =>
    (cutNth sep (if c = sep then n else n + 1) text).map fun (before, after) =>
      (c :: before, after)

/-- The texts before and after the first occurrence of `sep`. -/
def cut (sep : Char) (text : List Char) : Option (List Char × List Char) := cutNth sep 0 text

/-- The parts of a text between its separators; there is always at least one. -/
def parts (sep : Char) : List Char → List (List Char)
  | [] => [[]]
  | c :: text =>
    if c = sep then [] :: parts sep text
    else
      match parts sep text with
      | [] => [[c]]
      | part :: rest => (c :: part) :: rest

/-- A cut loses the separator and nothing else. -/
theorem eq_of_cutNth_eq_some {sep : Char} {n : Nat} {text before after : List Char}
    (h : cutNth sep n text = some (before, after)) : text = before ++ sep :: after := by
  induction text generalizing n before after with
  | nil => cases n <;> simp [cutNth] at h
  | cons c text ih =>
    cases n with
    | zero =>
      by_cases hc : c = sep
      · simp only [cutNth, hc, if_true, Option.some.injEq, Prod.mk.injEq] at h
        simp [hc, ← h.1, h.2]
      · simp only [cutNth, hc, if_false, Option.map_eq_some_iff, Prod.exists, Prod.mk.injEq] at h
        obtain ⟨b, a, hcut, rfl, rfl⟩ := h
        simp [ih hcut]
    | succ n =>
      simp only [cutNth, Option.map_eq_some_iff, Prod.exists, Prod.mk.injEq] at h
      obtain ⟨b, a, hcut, rfl, rfl⟩ := h
      simp [ih hcut]

end CivilTime.Text
