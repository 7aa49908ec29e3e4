import CivilTime.Proofs.Zone.Candidates
import Mathlib.Tactic.ByContra

/-!
# Wall clock times that are reported as repeated

Two candidates are found for a wall clock time that was shown twice: the earlier instant has the
larger offset, and both records are the ones in effect at their instants. Two candidates are also
found for a time that was shown once, if within a day of it the record changes to another one of the
same offset: the search compares offsets at the instants that it tries, but leaves out the second
record only if it is the first one in full (`candidateOffsets_eq_two_iff`).
-/

set_option autoImplicit false

namespace CivilTime

variable {offsetAt : Int → Except Error LocalRecord}

/-- The wall clock time is shown first under one record and later under another one. -/
structure IsRepeated (offsetAt : Int → Except Error LocalRecord) (wall : Int)
    (first second : LocalRecord) : Prop where
  offset_lt : second.offset < first.offset
  earlier : wall - first.offset < wall - second.offset
  first_inEffect : InEffect offsetAt (wall - first.offset) first
  second_inEffect : InEffect offsetAt (wall - second.offset) second

/-- Within a day of the wall clock time the record changes, but not its offset. -/
structure ChangesFlagAround (offsetAt : Int → Except Error LocalRecord) (wall : Int)
    (before after : LocalRecord) : Prop where
  offset_eq : before.offset = after.offset
  exists_changesAt : ∃ t, ChangesAt offsetAt t before after ∧ wall - 86400 < t ∧ t ≤ wall + 86400

/-! ## Where one record is in effect -/

/-- Without a change no local time is repeated. -/
theorem ConstantAround.not_isRepeated (hsteady : IsSteady offsetAt) {wall : Int}
    {r first second : LocalRecord} (h : ConstantAround offsetAt wall r) :
    ¬ IsRepeated offsetAt wall first second := by
  rintro ⟨hlt, -, hfirst, hsecond⟩
  have hfirstBound := hsteady.bounded _ _ hfirst
  have hsecondBound := hsteady.bounded _ _ hsecond
  have heq : first = r := hfirst.unique (h _ (by omega) (by omega))
  have heq' : second = r := hsecond.unique (h _ (by omega) (by omega))
  rw [heq, heq'] at hlt
  omega

/-- Without a change there is none of the flag. -/
theorem ConstantAround.not_changesFlagAround {wall : Int} {r before after : LocalRecord}
    (h : ConstantAround offsetAt wall r) : ¬ ChangesFlagAround offsetAt wall before after := by
  rintro ⟨-, t, ⟨hbefore, hafter, hne⟩, hlow, hhigh⟩
  exact hne ((hbefore.unique (h _ (by omega) (by omega))).trans
    (hafter.unique (h _ (by omega) (by omega))).symm)

/-! ## Around a change -/

/-- Around a change two records are answered if both lead to their side of it, or if they have one
offset. -/
theorem candidatesAround_eq_two_iff {wall t : Int} {before after first second : LocalRecord} :
    candidatesAround wall t before after = .two first second ↔
      (first = before ∧ second = after) ∧
        (before.offset = after.offset ∨ (wall - before.offset < t ∧ t ≤ wall - after.offset)) := by
  unfold candidatesAround
  split_ifs with htwo hfirst hlast
  · rw [CandidateOffsets.two.injEq, and_iff_left htwo, eq_comm, @eq_comm _ after]
  · exact iff_of_false (fun h => by cases h) fun h => htwo h.2
  · exact iff_of_false (fun h => by cases h) fun h => htwo h.2
  · exact iff_of_false (fun h => by cases h) fun h => htwo h.2

/-- A time that is repeated around a change is shown before it under the one record and from it on
under the other. -/
theorem ChangesOnceAround.isRepeated_iff (hsteady : IsSteady offsetAt) {wall t : Int}
    {before after first second : LocalRecord} (h : ChangesOnceAround offsetAt wall t before after) :
    IsRepeated offsetAt wall first second ↔
      (first = before ∧ second = after) ∧ wall - before.offset < t ∧ t ≤ wall - after.offset := by
  constructor
  · rintro ⟨hlt, -, hfirst, hsecond⟩
    have hfirstBound := hsteady.bounded _ _ hfirst
    have hsecondBound := hsteady.bounded _ _ hsecond
    -- were both instants on one side of the change, their records would be one
    have hbefore : wall - first.offset < t := by
      by_contra hnot
      have heq : first = after := hfirst.unique (h.later _ (by omega) (by omega))
      have heq' : second = after := hsecond.unique (h.later _ (by omega) (by omega))
      rw [heq, heq'] at hlt
      omega
    have heq : first = before := hfirst.unique (h.earlier _ (by omega) hbefore)
    have hafter : t ≤ wall - second.offset := by
      by_contra hnot
      have heq' : second = before := hsecond.unique (h.earlier _ (by omega) (by omega))
      rw [heq, heq'] at hlt
      omega
    have heq' : second = after := hsecond.unique (h.later _ hafter (by omega))
    exact ⟨⟨heq, heq'⟩, by rwa [← heq], by rwa [← heq']⟩
  · rintro ⟨⟨rfl, rfl⟩, hbefore, hafter⟩
    obtain ⟨hfirstBound, hsecondBound⟩ := h.bounded hsteady
    exact ⟨by omega, by omega, h.earlier _ (by omega) hbefore, h.later _ hafter (by omega)⟩

/-- The one change is one of the flag alone exactly if the offset stays. -/
theorem ChangesOnceAround.changesFlagAround_iff (hsteady : IsSteady offsetAt) {wall t : Int}
    {before after first second : LocalRecord} (h : ChangesOnceAround offsetAt wall t before after) :
    ChangesFlagAround offsetAt wall first second ↔
      (first = before ∧ second = after) ∧ before.offset = after.offset := by
  constructor
  · rintro ⟨hoffset, u, hchange, hlow, hhigh⟩
    obtain rfl := h.eq_of_changesAt hsteady hchange hlow hhigh
    obtain ⟨hbefore, hafter, -⟩ := h.changesAt
    obtain rfl := hchange.1.unique hbefore
    obtain rfl := hchange.2.1.unique hafter
    exact ⟨⟨rfl, rfl⟩, hoffset⟩
  · rintro ⟨⟨rfl, rfl⟩, hoffset⟩
    exact ⟨hoffset, t, h.changesAt, h.lower, h.upper⟩

/-! ## What is reported as repeated -/

/-- Two records are answered for a repeated time, and around a change of the flag alone. -/
theorem candidateOffsets_eq_two (hsteady : IsSteady offsetAt) {wall : Int}
    (hlow : FitsInt64 (wall - 86400)) (hhigh : FitsInt64 (wall + 86400))
    {first second : LocalRecord} :
    candidateOffsets offsetAt wall = .ok (.two first second) ↔
      IsRepeated offsetAt wall first second ∨ ChangesFlagAround offsetAt wall first second := by
  rcases constantAround_or_changesOnceAround hsteady hlow hhigh with ⟨r, h⟩ | ⟨t, b, a, h⟩
  · rw [h.candidateOffsets_eq hsteady]
    refine iff_of_false (fun heq => by cases heq) ?_
    rintro (hrepeated | hflag)
    · exact h.not_isRepeated hsteady hrepeated
    · exact h.not_changesFlagAround hflag
  · rw [h.candidateOffsets_eq hsteady, Except.ok.injEq, candidatesAround_eq_two_iff,
      h.isRepeated_iff hsteady, h.changesFlagAround_iff hsteady, ← and_or_left, or_comm]

/-- A change of the flag alone repeats no time. -/
theorem ChangesFlagAround.shows_iff (hsteady : IsSteady offsetAt) {wall u : Int}
    (hlow : FitsInt64 (wall - 86400)) (hhigh : FitsInt64 (wall + 86400))
    {before after : LocalRecord} (h : ChangesFlagAround offsetAt wall before after) :
    Shows offsetAt wall u ↔ u = wall - before.offset := by
  rcases constantAround_or_changesOnceAround hsteady hlow hhigh with ⟨r, hr⟩ | ⟨t, b, a, hba⟩
  · exact absurd h hr.not_changesFlagAround
  · obtain ⟨⟨rfl, rfl⟩, hoffset⟩ := (hba.changesFlagAround_iff hsteady).1 h
    rw [hba.shows_iff hsteady, ← hoffset]
    omega

/-- A source that searches finds two candidates exactly for the times that are repeated, and for
those within a day of a change that keeps the offset. In the first case the first record has the
larger offset and the earlier instant, and both records are in effect at their instants; in the
second case the time is shown only once. -/
theorem candidateOffsets_eq_two_iff (source : ZoneSource) (name : String)
    (hsearches : source.Searches name) {wall : Int}
    (hsteady : IsSteady (source.offsetAt name)) (hlow : FitsInt64 (wall - 86400))
    (hhigh : FitsInt64 (wall + 86400)) (first second : LocalRecord) :
    ((Zone.named name).candidateOffsets source wall = .ok (.two first second) ↔
      IsRepeated (source.offsetAt name) wall first second ∨
        ChangesFlagAround (source.offsetAt name) wall first second) ∧
    (ChangesFlagAround (source.offsetAt name) wall first second →
      ∀ u, Shows (source.offsetAt name) wall u ↔ u = wall - first.offset) := by
  refine ⟨?_, fun h _ => h.shows_iff hsteady hlow hhigh⟩
  rw [Zone.candidateOffsets, hsearches wall]
  exact candidateOffsets_eq_two hsteady hlow hhigh

/-- Half past one on the night in November on which the clocks were set back from two to one. -/
theorem candidateOffsets_eq_two_iff_newYork :
    IsRepeated (newYork2017.source.offsetAt "America/New_York") 1509845400
      (.daylight (-14400)) (.standard (-18000)) := by
  have hfound : (Zone.named "America/New_York").candidateOffsets newYork2017.source 1509845400 =
      .ok (.two (.daylight (-14400)) (.standard (-18000))) := rfl
  refine ((candidateOffsets_eq_two_iff newYork2017.source "America/New_York"
    (newYork2017.searches _) isSteady_newYork2017 (by decide) (by decide) _ _).1.1
      hfound).resolve_right ?_
  rintro ⟨hoffset, -⟩
  exact absurd hoffset (by decide)

/-- London in 1968, when summer time was made the standard time: the clocks were not changed. -/
def london1968 : Catalogue :=
  [{ name := "Europe/London"
     canonical := "Europe/London"
     data := .table (.daylight 3600) [⟨-37242000, .standard 3600⟩] 3600 }]

/-- London in 1968 is as the search for candidates supposes of a zone. -/
theorem isSteady_london1968 : IsSteady (london1968.source.offsetAt "Europe/London") :=
  @isSteady_table (.daylight 3600) [⟨-37242000, .standard 3600⟩] 3600 (by decide) (by decide)
    (by decide)

/-- Noon of the day before this change is reported as repeated, but both records have one offset and
lead to one instant. -/
theorem not_isRepeated_of_candidateOffsets_eq_two :
    IsSteady (london1968.source.offsetAt "Europe/London") ∧
      (Zone.named "Europe/London").candidateOffsets london1968.source (-37281600) =
        .ok (.two (.daylight 3600) (.standard 3600)) ∧
      ¬ (LocalRecord.standard 3600).offset < (LocalRecord.daylight 3600).offset :=
  ⟨isSteady_london1968, rfl, by decide⟩

end CivilTime
