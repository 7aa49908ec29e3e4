/-!
# Length hints

A writer announces how long its text will be: at least so many bytes, and at most so many where
it knows a bound. The hint of a text written in parts is the sum of the hints of the parts.
-/

set_option autoImplicit false

namespace CivilTime.Text

/-- Bounds on the length of a text in bytes. -/
structure LengthHint where
  /-- The text has at least this many bytes. -/
  lower : Nat
  /-- The text has at most this many bytes, if a bound is known. -/
  upper : Option Nat
deriving DecidableEq, Repr

namespace LengthHint

/-- The length is known. -/
def exact (n : Nat) : LengthHint := ⟨n, some n⟩

/-- Only a lower bound is known. -/
def atLeast (n : Nat) : LengthHint := ⟨n, none⟩

/-- The length lies between the bounds. -/
def between (lower upper : Nat) : LengthHint := ⟨lower, some upper⟩

/-- Bounds on parts add up; a part without an upper bound leaves the whole without one. -/
def add (a b : LengthHint) : LengthHint :=
  ⟨a.lower + b.lower,
    match a.upper, b.upper with
    | some m, some n => some (m + n)
    | _, _ => none⟩

instance : Add LengthHint := ⟨add⟩

/-- The hint holds of a text of `n` bytes. -/
def Admits (hint : LengthHint) (n : Nat) : Prop :=
  hint.lower ≤ n ∧ ∀ bound ∈ hint.upper, n ≤ bound

/-- An exact hint admits its own length. -/
theorem exact_admits (n : Nat) : (exact n).Admits n := by
  simp [Admits, exact]

/-- A known length is the only one. -/
theorem exact_admits_iff {m n : Nat} : (exact m).Admits n ↔ n = m := by
  simp only [Admits, exact, Option.mem_def, Option.some.injEq, forall_eq']
  omega

/-- A hint without an upper bound admits all lengths from its bound on. -/
theorem atLeast_admits_iff {m n : Nat} : (atLeast m).Admits n ↔ m ≤ n := by
  simp [Admits, atLeast]

/-- A hint with two bounds admits the lengths from one to the other. -/
theorem between_admits_iff {lower upper n : Nat} :
    (between lower upper).Admits n ↔ lower ≤ n ∧ n ≤ upper := by
  simp [Admits, between]

/-- A sum is bounded exactly if both parts are. -/
theorem mem_upper_add {a b : LengthHint} {bound : Nat} :
    bound ∈ (a + b).upper ↔ ∃ m ∈ a.upper, ∃ n ∈ b.upper, m + n = bound := by
  change bound ∈ (a.add b).upper ↔ _
  cases ha : a.upper <;> cases hb : b.upper <;> simp [add, ha, hb]

/-- A hint for the parts is a hint for the whole. -/
theorem Admits.add {a b : LengthHint} {m n : Nat} (ha : a.Admits m) (hb : b.Admits n) :
    (a + b).Admits (m + n) := by
  refine ⟨Nat.add_le_add ha.1 hb.1, fun bound hbound => ?_⟩
  obtain ⟨u, hu, v, hv, rfl⟩ := mem_upper_add.1 hbound
  exact Nat.add_le_add (ha.2 u hu) (hb.2 v hv)

/-- A sum has no upper bound if one of its parts has none. -/
theorem upper_add_eq_none (a : LengthHint) {b : LengthHint} (h : b.upper = none) :
    (a + b).upper = none := by
  refine Option.eq_none_iff_forall_not_mem.2 fun bound hbound => ?_
  obtain ⟨-, -, n, hn, -⟩ := mem_upper_add.1 hbound
  rw [h] at hn
  cases hn

/-- A part without an upper bound leaves no upper bound for a part after it to break. -/
theorem Admits.add_of_upper_eq_none {a b : LengthHint} {m n : Nat} (ha : a.Admits m)
    (hnone : a.upper = none) (hb : b.lower ≤ n) : (a + b).Admits (m + n) := by
  refine ⟨Nat.add_le_add ha.1 hb, fun bound hbound => ?_⟩
  obtain ⟨u, hu, -⟩ := mem_upper_add.1 hbound
  rw [hnone] at hu
  cases hu

end LengthHint

end CivilTime.Text
