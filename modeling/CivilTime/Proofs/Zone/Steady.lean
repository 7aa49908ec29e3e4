import CivilTime.Width
import CivilTime.Zone.Catalogue
import Mathlib.Data.Int.Init

/-!
# Zones whose record changes seldom

A zone is a function from instants to records. The search for the candidates of a wall clock time
supposes that it answers at every instant of 64 bits with an offset of less than a day, and that
its record changes not more often than every two days. Between its changes a record stays in
effect (`InEffect.forward`, `InEffect.backward`), and a table of changes that far apart is such a
zone (`isSteady_table`).
-/

set_option autoImplicit false

namespace CivilTime

/-! ## Records in effect -/

/-- The record that a zone answers with at an instant, in seconds. -/
def InEffect (offsetAt : Int → Except Error LocalRecord) (t : Int) (r : LocalRecord) : Prop :=
  FitsInt64 t ∧ offsetAt t = .ok r

/-- One record is in effect up to an instant, and another one from then on. -/
def ChangesAt (offsetAt : Int → Except Error LocalRecord) (t : Int)
    (before after : LocalRecord) : Prop :=
  InEffect offsetAt (t - 1) before ∧ InEffect offsetAt t after ∧ before ≠ after

/-- The clocks of the zone show a wall clock time at an instant. -/
def Shows (offsetAt : Int → Except Error LocalRecord) (wall t : Int) : Prop :=
  ∃ r, InEffect offsetAt t r ∧ t + r.offset = wall

/-- What the search for candidates supposes of a zone. -/
structure IsSteady (offsetAt : Int → Except Error LocalRecord) : Prop where
  /-- There is a record at every instant. -/
  answers : ∀ t, FitsInt64 t → ∃ r, offsetAt t = .ok r
  /-- Offsets are less than a day. -/
  bounded : ∀ t r, InEffect offsetAt t r → -86400 < r.offset ∧ r.offset < 86400
  /-- Changes are two days apart. -/
  apart : ∀ s t b a b' a', ChangesAt offsetAt s b a → ChangesAt offsetAt t b' a' → s < t →
    s + 172800 ≤ t

variable {offsetAt : Int → Except Error LocalRecord}

/-- One record is in effect at an instant. -/
theorem InEffect.unique {t : Int} {r r' : LocalRecord} (h : InEffect offsetAt t r)
    (h' : InEffect offsetAt t r') : r = r' := by
  have heq := h.2.symm.trans h'.2
  exact Except.ok.inj heq

/-- What lies between two numbers that fit in 64 bits fits too. -/
theorem fitsInt64_of_mem {s t u : Int} (hs : FitsInt64 s) (ht : FitsInt64 t) (hsu : s ≤ u)
    (hut : u ≤ t) : FitsInt64 u := by
  unfold FitsInt64 at *
  omega

/-- A record stays in effect as long as there is no change. -/
theorem InEffect.forward (hsteady : IsSteady offsetAt) {s t : Int} {r : LocalRecord}
    (hs : InEffect offsetAt s r) (hst : s ≤ t) (ht : FitsInt64 t)
    (hno : ∀ u b a, s < u → u ≤ t → ¬ ChangesAt offsetAt u b a) : InEffect offsetAt t r := by
  -- on the end of the stretch: were the record of the last second another one, it would have
  -- changed there
  induction t, hst using Int.leInduction with
  | base => exact hs
  | succ t hst ih =>
    have hfits : FitsInt64 t := fitsInt64_of_mem hs.1 ht hst (by omega)
    have hprev := ih hfits fun u b a hsu hut => hno u b a hsu (by omega)
    obtain ⟨r', hr'⟩ := hsteady.answers (t + 1) ht
    by_cases heq : r = r'
    · rw [heq]
      exact ⟨ht, hr'⟩
    · exfalso
      refine hno (t + 1) r r' (by omega) (by omega) ⟨?_, ⟨ht, hr'⟩, heq⟩
      rwa [show t + 1 - 1 = t by omega]

/-- Going back without a change, the same record was in effect. -/
theorem InEffect.backward (hsteady : IsSteady offsetAt) {s t : Int} {r : LocalRecord}
    (ht : InEffect offsetAt t r) (hst : s ≤ t) (hs : FitsInt64 s)
    (hno : ∀ u b a, s < u → u ≤ t → ¬ ChangesAt offsetAt u b a) : InEffect offsetAt s r := by
  obtain ⟨r', hr'⟩ := hsteady.answers s hs
  have hforward := InEffect.forward hsteady ⟨hs, hr'⟩ hst ht.1 hno
  rw [ht.unique hforward]
  exact ⟨hs, hr'⟩

/-! ## Tables of changes -/

section

variable {initial : LocalRecord} {transitions : List Transition}

/-- A table answers its first record, or that of one of its transitions. -/
theorem tableRecordAt_mem (t : Int) :
    tableRecordAt initial transitions t = initial ∨
      ∃ x ∈ transitions, tableRecordAt initial transitions t = x.record := by
  cases hlast : (transitions.filter fun x => decide (x.instant ≤ t)).getLast? with
  | none =>
    left
    simp [tableRecordAt, hlast]
  | some x =>
    right
    refine ⟨x, (List.mem_filter.1 (List.mem_of_getLast? hlast)).1, ?_⟩
    simp [tableRecordAt, hlast]

/-- Where no transition is, the record is that of the second before. -/
theorem tableRecordAt_pred {t : Int} (h : ∀ x ∈ transitions, x.instant ≠ t) :
    tableRecordAt initial transitions (t - 1) = tableRecordAt initial transitions t := by
  have hfilter : (transitions.filter fun x => decide (x.instant ≤ t - 1)) =
      transitions.filter fun x => decide (x.instant ≤ t) := by
    refine List.filter_congr fun x hx => ?_
    have := h x hx
    exact decide_eq_decide.2 (by omega)
  simp only [tableRecordAt, hfilter]

/-- A table changes only at its transitions. -/
theorem exists_of_changesAt {u : Int} {b a : LocalRecord}
    (h : ChangesAt (fun t => .ok (tableRecordAt initial transitions t)) u b a) :
    ∃ x ∈ transitions, x.instant = u := by
  obtain ⟨hbefore, hafter, hne⟩ := h
  by_cases hentry : ∃ x ∈ transitions, x.instant = u
  · exact hentry
  · refine absurd ?_ hne
    rw [← Except.ok.inj hbefore.2, ← Except.ok.inj hafter.2]
    exact tableRecordAt_pred fun x hx heq => hentry ⟨x, hx, heq⟩

end

/-- A table is steady if its offsets are less than a day and its changes two days apart. -/
theorem isSteady_table {initial : LocalRecord} {transitions : List Transition}
    {standardOffset : Int}
    (hinitial : -86400 < initial.offset ∧ initial.offset < 86400)
    (hrecords : ∀ x ∈ transitions, -86400 < x.record.offset ∧ x.record.offset < 86400)
    (hapart : transitions.Pairwise fun x y => x.instant + 172800 ≤ y.instant) :
    IsSteady (ZoneData.table initial transitions standardOffset).recordAt where
  answers t _ := ⟨_, rfl⟩
  bounded t r h := by
    rw [← Except.ok.inj h.2]
    rcases tableRecordAt_mem t with heq | ⟨x, hx, heq⟩
    · rw [heq]
      exact hinitial
    · rw [heq]
      exact hrecords x hx
  apart s t b a b' a' hs ht := by
    obtain ⟨x, hx, rfl⟩ := exists_of_changesAt hs
    obtain ⟨y, hy, rfl⟩ := exists_of_changesAt ht
    refine List.Pairwise.forall_of_forall_of_flip
      (R := fun x y : Transition => x.instant < y.instant → x.instant + 172800 ≤ y.instant)
      ?_ ?_ ?_ hx hy
    · intro x _ hlt
      omega
    -- the order of the entries is that of their instants, so one of the two orders is absurd
    · refine hapart.imp ?_
      intro x y hle _
      exact hle
    · refine hapart.imp ?_
      intro x y hle hlt
      omega

/-- New York in 2017: five hours west of UTC, with daylight saving time from March to November. -/
def newYork2017 : Catalogue :=
  [{ name := "America/New_York"
     canonical := "America/New_York"
     data := .table (.standard (-18000))
       [⟨1489302000, .daylight (-14400)⟩, ⟨1509861600, .standard (-18000)⟩] (-18000) }]

/-- New York in 2017 is as the search for candidates supposes of a zone. -/
theorem isSteady_newYork2017 : IsSteady (newYork2017.source.offsetAt "America/New_York") :=
  @isSteady_table (.standard (-18000))
    [⟨1489302000, .daylight (-14400)⟩, ⟨1509861600, .standard (-18000)⟩] (-18000)
    (by decide) (by decide) (by decide)

end CivilTime
