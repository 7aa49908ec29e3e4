import CivilTime.Proofs.Zone.Steady
import CivilTime.Zone.Basic
import Mathlib.Tactic.SplitIfs

/-!
# The candidates are the instants that show a wall clock time

The two days around a wall clock time hold at most one change of the record of a steady zone, and
every instant that shows the time lies in them; so the records before and after that change decide
everything.
-/

set_option autoImplicit false

namespace CivilTime

variable {offsetAt : Int → Except Error LocalRecord}

/-! ## The two days around a wall clock time -/

/-- One record is in effect from a day before a wall clock time to a day after. -/
def ConstantAround (offsetAt : Int → Except Error LocalRecord) (wall : Int)
    (r : LocalRecord) : Prop :=
  ∀ u, wall - 86400 ≤ u → u ≤ wall + 86400 → InEffect offsetAt u r

/-- The record changes once from a day before a wall clock time to a day after. -/
structure ChangesOnceAround (offsetAt : Int → Except Error LocalRecord) (wall t : Int)
    (before after : LocalRecord) : Prop where
  lower : wall - 86400 < t
  upper : t ≤ wall + 86400
  ne : before ≠ after
  earlier : ∀ u, wall - 86400 ≤ u → u < t → InEffect offsetAt u before
  later : ∀ u, t ≤ u → u ≤ wall + 86400 → InEffect offsetAt u after

/-- Two days hold one change at most. -/
theorem constantAround_or_changesOnceAround (hsteady : IsSteady offsetAt) {wall : Int}
    (hlow : FitsInt64 (wall - 86400)) (hhigh : FitsInt64 (wall + 86400)) :
    (∃ r, ConstantAround offsetAt wall r) ∨
      ∃ t before after, ChangesOnceAround offsetAt wall t before after := by
  by_cases hchange : ∃ t b a, ChangesAt offsetAt t b a ∧ wall - 86400 < t ∧ t ≤ wall + 86400
  · obtain ⟨t, b, a, ht, hlt, hle⟩ := hchange
    obtain ⟨hb, ha, hne⟩ := ht
    -- another change in these two days would be too close to this one
    have hother : ∀ u b' a', wall - 86400 < u → u ≤ wall + 86400 → u ≠ t →
        ¬ ChangesAt offsetAt u b' a' := by
      intro u b' a' hu hu' hut hchange
      rcases Int.lt_or_gt_of_ne hut with h | h
      · have := hsteady.apart u t b' a' b a hchange ⟨hb, ha, hne⟩ h
        omega
      · have := hsteady.apart t u b a b' a' ⟨hb, ha, hne⟩ hchange h
        omega
    refine Or.inr ⟨t, b, a, hlt, hle, hne, ?_, ?_⟩
    · intro u hu hut
      refine hb.backward hsteady (by omega) (fitsInt64_of_mem hlow hhigh hu (by omega)) ?_
      intro v b' a' huv hvt
      exact hother v b' a' (by omega) (by omega) (by omega)
    · intro u htu hu
      refine ha.forward hsteady htu (fitsInt64_of_mem hlow hhigh (by omega) hu) ?_
      intro v b' a' htv hvu
      exact hother v b' a' (by omega) (by omega) (by omega)
  · obtain ⟨r, hr⟩ := hsteady.answers (wall - 86400) hlow
    refine Or.inl ⟨r, fun u hu hu' => ?_⟩
    have hstart : InEffect offsetAt (wall - 86400) r := ⟨hlow, hr⟩
    refine hstart.forward hsteady hu (fitsInt64_of_mem hlow hhigh hu hu') ?_
    intro v b a hv hvu hat
    exact hchange ⟨v, b, a, hat, by omega, by omega⟩

/-- The one change around a local time is a change of the zone. -/
theorem ChangesOnceAround.changesAt {wall t : Int} {before after : LocalRecord}
    (h : ChangesOnceAround offsetAt wall t before after) : ChangesAt offsetAt t before after := by
  have hlower := h.lower
  have hupper := h.upper
  exact ⟨h.earlier (t - 1) (by omega) (by omega), h.later t (by omega) hupper, h.ne⟩

/-- Around a local time with one change, every change is that one. -/
theorem ChangesOnceAround.eq_of_changesAt (hsteady : IsSteady offsetAt) {wall t u : Int}
    {before after b a : LocalRecord} (h : ChangesOnceAround offsetAt wall t before after)
    (hu : ChangesAt offsetAt u b a) (hlow : wall - 86400 < u) (hhigh : u ≤ wall + 86400) :
    u = t := by
  have hlower := h.lower
  have hupper := h.upper
  rcases Int.lt_trichotomy u t with hlt | heq | hlt
  · have := hsteady.apart u t b a before after hu h.changesAt hlt
    omega
  · exact heq
  · have := hsteady.apart t u before after b a h.changesAt hu hlt
    omega

/-! ## The instants that show a wall clock time -/

/-- Clocks show a local time only within a day of the instant of the same number. -/
theorem Shows.mem (hsteady : IsSteady offsetAt) {wall u : Int} (h : Shows offsetAt wall u) :
    wall - 86400 < u ∧ u < wall + 86400 := by
  obtain ⟨r, hr, hwall⟩ := h
  have hbound := hsteady.bounded u r hr
  omega

/-- Without a change, a local time is shown once. -/
theorem ConstantAround.shows_iff (hsteady : IsSteady offsetAt) {wall u : Int} {r : LocalRecord}
    (h : ConstantAround offsetAt wall r) : Shows offsetAt wall u ↔ u = wall - r.offset := by
  have hbound := hsteady.bounded wall r (h wall (by omega) (by omega))
  constructor
  · intro hshows
    have hmem := hshows.mem hsteady
    obtain ⟨r', hr', hwall⟩ := hshows
    rw [hr'.unique (h u (by omega) (by omega))] at hwall
    omega
  · rintro rfl
    exact ⟨r, h (wall - r.offset) (by omega) (by omega), by omega⟩

/-- The offsets before and after the change are less than a day. -/
theorem ChangesOnceAround.bounded (hsteady : IsSteady offsetAt) {wall t : Int}
    {before after : LocalRecord} (h : ChangesOnceAround offsetAt wall t before after) :
    (-86400 < before.offset ∧ before.offset < 86400) ∧
      (-86400 < after.offset ∧ after.offset < 86400) :=
  ⟨hsteady.bounded _ _ h.changesAt.1, hsteady.bounded _ _ h.changesAt.2.1⟩

/-- Around a change, the time is shown under the record before it if that leads to an instant
before it, and under the record after it if that leads to an instant from the change on. -/
theorem ChangesOnceAround.shows_iff (hsteady : IsSteady offsetAt) {wall t u : Int}
    {before after : LocalRecord} (h : ChangesOnceAround offsetAt wall t before after) :
    Shows offsetAt wall u ↔
      (u = wall - before.offset ∧ u < t) ∨ (u = wall - after.offset ∧ t ≤ u) := by
  obtain ⟨hbefore, hafter⟩ := h.bounded hsteady
  constructor
  · intro hshows
    have hmem := hshows.mem hsteady
    obtain ⟨r, hr, hwall⟩ := hshows
    by_cases hut : u < t
    · rw [hr.unique (h.earlier u (by omega) hut)] at hwall
      exact Or.inl ⟨by omega, hut⟩
    · rw [hr.unique (h.later u (by omega) (by omega))] at hwall
      exact Or.inr ⟨by omega, by omega⟩
  · rintro (⟨rfl, hut⟩ | ⟨rfl, htu⟩)
    · exact ⟨before, h.earlier _ (by omega) hut, by omega⟩
    · exact ⟨after, h.later _ htu (by omega), by omega⟩

/-! ## What the search finds -/

/-- The candidates around a change from `before` to `after` at `t`. Records of one offset lead to
the same instant, and both are candidates then. -/
def candidatesAround (wall t : Int) (before after : LocalRecord) : CandidateOffsets :=
  if before.offset = after.offset ∨ (wall - before.offset < t ∧ t ≤ wall - after.offset) then
    .two before after
  else if wall - before.offset < t then .one before
  else if t ≤ wall - after.offset then .one after
  else .gap before after

/-- Without a change the search answers the one record there is. -/
theorem ConstantAround.candidateOffsets_eq (hsteady : IsSteady offsetAt) {wall : Int}
    {r : LocalRecord} (h : ConstantAround offsetAt wall r) :
    candidateOffsets offsetAt wall = .ok (.one r) := by
  have hbound := hsteady.bounded wall r (h wall (by omega) (by omega))
  have hfirst := (h (wall - 86400) (by omega) (by omega)).2
  have hlast := (h (wall + 86400) (by omega) (by omega)).2
  have hat := (h (wall - r.offset) (by omega) (by omega)).2
  simp only [candidateOffsets, transitionSearchSeconds, hfirst, hlast, hat, and_self, if_true]

/-- Around the one change, the record before it counts up to it, and the record after it from then
on. -/
theorem ChangesOnceAround.offsetAt_eq {wall t : Int} {before after : LocalRecord}
    (h : ChangesOnceAround offsetAt wall t before after) {u : Int} (hlow : wall - 86400 ≤ u)
    (hhigh : u ≤ wall + 86400) : offsetAt u = .ok (if u < t then before else after) := by
  split
  · next hut => exact (h.earlier u hlow hut).2
  · next hut => exact (h.later u (by omega) hhigh).2

/-- Around a change the search finds the candidates of the change. -/
theorem ChangesOnceAround.candidateOffsets_eq (hsteady : IsSteady offsetAt) {wall t : Int}
    {before after : LocalRecord} (h : ChangesOnceAround offsetAt wall t before after) :
    candidateOffsets offsetAt wall = .ok (candidatesAround wall t before after) := by
  obtain ⟨hbefore, hafter⟩ := h.bounded hsteady
  have hlower := h.lower
  have hupper := h.upper
  have hfirst := (h.earlier (wall - 86400) (by omega) hlower).2
  have hlast := (h.later (wall + 86400) hupper (by omega)).2
  have hatBefore := h.offsetAt_eq (u := wall - before.offset) (by omega) (by omega)
  have hatAfter := h.offsetAt_eq (u := wall - after.offset) (by omega) (by omega)
  simp only [candidateOffsets, transitionSearchSeconds, hfirst, hlast, hatBefore, hatAfter,
    h.ne.symm, and_false, if_false]
  unfold candidatesAround
  -- what is left depends on which side of the change each of the two probes falls
  by_cases hoffset : before.offset = after.offset
  · simp [hoffset, apply_ite LocalRecord.offset]
  · by_cases hx : wall - before.offset < t <;> by_cases hy : wall - after.offset < t
    · have : ¬ t ≤ wall - after.offset := by omega
      simp [hx, hy, hoffset, this]
    · have hle : t ≤ wall - after.offset := by omega
      have hlater : after.offset ≤ before.offset := by omega
      simp [hx, hy, hle, hlater]
    · have : ¬ t ≤ wall - after.offset := by omega
      simp [hx, hy, hoffset, this, Ne.symm hoffset]
    · have hle : t ≤ wall - after.offset := by omega
      simp [hx, hy, hoffset, hle, Ne.symm hoffset]

/-! ## Soundness and completeness -/

/-- The records that a wall clock time may have been shown under. -/
def CandidateOffsets.records : CandidateOffsets → List LocalRecord
  | .gap _ _ => []
  | .one record => [record]
  | .two first second => [first, second]

/-- Only a gap has no records. -/
theorem CandidateOffsets.records_eq_nil_iff (candidates : CandidateOffsets) :
    candidates.records = [] ↔ ∃ before after, candidates = .gap before after := by
  cases candidates <;> simp [CandidateOffsets.records]

/-- The candidates around a change lead to the instants that show the time. -/
theorem ChangesOnceAround.mem_records_iff (hsteady : IsSteady offsetAt) {wall t u : Int}
    {before after : LocalRecord} (h : ChangesOnceAround offsetAt wall t before after) :
    (∃ r ∈ (candidatesAround wall t before after).records, u = wall - r.offset) ↔
      Shows offsetAt wall u := by
  rw [h.shows_iff hsteady]
  unfold candidatesAround
  split_ifs with htwo hfirst hlast
  · simp only [CandidateOffsets.records, List.mem_cons, List.not_mem_nil, or_false,
      exists_eq_or_imp, exists_eq_left]
    omega
  · simp only [CandidateOffsets.records, List.mem_cons, List.not_mem_nil, or_false,
      exists_eq_left]
    omega
  · simp only [CandidateOffsets.records, List.mem_cons, List.not_mem_nil, or_false,
      exists_eq_left]
    omega
  · constructor
    · rintro ⟨r, hr, -⟩
      exact absurd hr List.not_mem_nil
    · omega

/-- A gap is found around a change that set the clocks forward past the time. -/
theorem candidatesAround_eq_gap_iff {wall t : Int} {before after b a : LocalRecord} :
    candidatesAround wall t before after = .gap b a ↔
      (b = before ∧ a = after) ∧ t + before.offset ≤ wall ∧ wall < t + after.offset := by
  unfold candidatesAround
  split_ifs with htwo hfirst hlast
  · simp only [false_iff]
    omega
  · simp only [false_iff]
    omega
  · simp only [false_iff]
    omega
  · constructor
    · intro hgap
      obtain ⟨rfl, rfl⟩ := CandidateOffsets.gap.inj hgap
      exact ⟨⟨rfl, rfl⟩, by omega, by omega⟩
    · rintro ⟨⟨rfl, rfl⟩, -⟩
      rfl

/-- The only candidate is in effect at the instant it leads to. -/
theorem ChangesOnceAround.inEffect_of_one (hsteady : IsSteady offsetAt) {wall t : Int}
    {before after r : LocalRecord} (h : ChangesOnceAround offsetAt wall t before after)
    (hone : candidatesAround wall t before after = .one r) :
    InEffect offsetAt (wall - r.offset) r := by
  obtain ⟨hbefore, hafter⟩ := h.bounded hsteady
  unfold candidatesAround at hone
  split_ifs at hone with htwo hfirst hlast
  · obtain rfl := CandidateOffsets.one.inj hone
    exact h.earlier _ (by omega) hfirst
  · obtain rfl := CandidateOffsets.one.inj hone
    exact h.later _ hlast (by omega)

/-- The search succeeds, and its records lead to the instants that show the time. -/
theorem exists_candidates (hsteady : IsSteady offsetAt) {wall : Int}
    (hlow : FitsInt64 (wall - 86400)) (hhigh : FitsInt64 (wall + 86400)) :
    ∃ candidates, candidateOffsets offsetAt wall = .ok candidates ∧
      (∀ u, (∃ r ∈ candidates.records, u = wall - r.offset) ↔ Shows offsetAt wall u) ∧
      ∀ r, candidates = .one r → InEffect offsetAt (wall - r.offset) r := by
  rcases constantAround_or_changesOnceAround hsteady hlow hhigh with ⟨r, h⟩ | ⟨t, b, a, h⟩
  · refine ⟨.one r, h.candidateOffsets_eq hsteady, fun u => ?_, ?_⟩
    · rw [h.shows_iff hsteady]
      simp [CandidateOffsets.records]
    · rintro r' hr'
      obtain rfl := CandidateOffsets.one.inj hr'
      have hbound := hsteady.bounded wall r (h wall (by omega) (by omega))
      exact h _ (by omega) (by omega)
  · exact ⟨candidatesAround wall t b a, h.candidateOffsets_eq hsteady,
      fun u => h.mem_records_iff hsteady, fun r hone => h.inEffect_of_one hsteady hone⟩

/-- A gap has one change that skips the time, and its records are those of the change. -/
theorem exists_changesAt_of_gap (hsteady : IsSteady offsetAt) {wall : Int}
    (hlow : FitsInt64 (wall - 86400)) (hhigh : FitsInt64 (wall + 86400))
    {before after : LocalRecord} (hgap : candidateOffsets offsetAt wall = .ok (.gap before after)) :
    ∃ t, ChangesAt offsetAt t before after ∧ t + before.offset ≤ wall ∧
      wall < t + after.offset ∧
      ∀ t' b a, ChangesAt offsetAt t' b a → t' + b.offset ≤ wall → wall < t' + a.offset →
        t' = t := by
  rcases constantAround_or_changesOnceAround hsteady hlow hhigh with ⟨r, h⟩ | ⟨t, b, a, h⟩
  · rw [h.candidateOffsets_eq hsteady] at hgap
    simp at hgap
  · rw [h.candidateOffsets_eq hsteady, Except.ok.injEq, candidatesAround_eq_gap_iff] at hgap
    obtain ⟨⟨rfl, rfl⟩, hskip, hskip'⟩ := hgap
    refine ⟨t, h.changesAt, hskip, hskip', ?_⟩
    intro t' b' a' hchange hle hlt
    have hb := hsteady.bounded _ _ hchange.1
    have ha := hsteady.bounded _ _ hchange.2.1
    exact h.eq_of_changesAt hsteady hchange (by omega) (by omega)

/-- The search for candidates is sound and complete. For a zone of a source that searches, whose
offsets are less than a day and whose changes are two days apart, it answers, and the records it
finds lead to exactly the instants that show the wall clock time. It finds a gap exactly if no
instant shows the time, and then one change of record skipped it. A single record it finds is in
effect at its instant. -/
theorem candidateOffsets_sound_complete (source : ZoneSource) (name : String)
    (hsearches : source.Searches name) {wall : Int}
    (hsteady : IsSteady (source.offsetAt name)) (hlow : FitsInt64 (wall - 86400))
    (hhigh : FitsInt64 (wall + 86400)) :
    ∃ candidates, (Zone.named name).candidateOffsets source wall = .ok candidates ∧
      (∀ u, (∃ r ∈ candidates.records, u = wall - r.offset) ↔
        Shows (source.offsetAt name) wall u) ∧
      ((∃ before after, candidates = .gap before after) ↔
        ∀ u, ¬ Shows (source.offsetAt name) wall u) ∧
      (∀ before after, candidates = .gap before after →
        ∃ t, ChangesAt (source.offsetAt name) t before after ∧ t + before.offset ≤ wall ∧
          wall < t + after.offset ∧
          ∀ t' b a, ChangesAt (source.offsetAt name) t' b a → t' + b.offset ≤ wall →
            wall < t' + a.offset → t' = t) ∧
      ∀ r, candidates = .one r → InEffect (source.offsetAt name) (wall - r.offset) r := by
  obtain ⟨candidates, hfound, hmem, hone⟩ := exists_candidates hsteady hlow hhigh
  refine ⟨candidates, (hsearches wall).trans hfound, hmem, ?_, ?_, hone⟩
  · rw [← CandidateOffsets.records_eq_nil_iff]
    constructor
    · intro hnil u hshows
      obtain ⟨r, hr, -⟩ := (hmem u).2 hshows
      rw [hnil] at hr
      exact List.not_mem_nil hr
    · intro hno
      refine List.eq_nil_iff_forall_not_mem.2 fun r hr => ?_
      exact hno (wall - r.offset) ((hmem _).1 ⟨r, hr, rfl⟩)
  · rintro before after rfl
    exact exists_changesAt_of_gap hsteady hlow hhigh hfound

/-- No instant shows half past two on the night in March on which the clocks were set forward from
two to three. -/
theorem candidateOffsets_sound_complete_newYork :
    ¬ ∃ u, Shows (newYork2017.source.offsetAt "America/New_York") 1489285800 u := by
  obtain ⟨candidates, hfound, -, hgap, -⟩ := candidateOffsets_sound_complete newYork2017.source
    "America/New_York" (newYork2017.searches _) isSteady_newYork2017 (by decide)
    (by decide : FitsInt64 (1489285800 + 86400))
  have hskipped : (Zone.named "America/New_York").candidateOffsets newYork2017.source 1489285800 =
      .ok (.gap (.standard (-18000)) (.daylight (-14400))) := rfl
  rw [hfound, Except.ok.injEq] at hskipped
  rintro ⟨u, hshows⟩
  exact hgap.1 ⟨_, _, hskipped⟩ u hshows

end CivilTime
