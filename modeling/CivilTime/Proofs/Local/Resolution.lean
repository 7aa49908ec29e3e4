import CivilTime.Proofs.Local.Fields
import CivilTime.Proofs.Zone.Candidates
import CivilTime.Proofs.Session.Basic

/-!
# Resolving local times in a steady zone

A local time that some instants show resolves to one of them, and one that a change of the clocks
skipped resolves to an instant that shows it moved forward by the change. The seconds of a time are
resolved by its candidates; its milliseconds are left alone.
-/

set_option autoImplicit false

namespace CivilTime

/-! ## The record under which a time is taken -/

namespace CandidateOffsets

/-- The record under which a time is taken in the end. -/
def resolved : CandidateOffsets → LocalRecord
  | .gap before _ => before
  | .one record => record
  | .two first second => preferStandard first second

/-- Unless the time was skipped, it is taken under one of its candidates. -/
theorem resolved_mem {candidates : CandidateOffsets} (h : candidates.records ≠ []) :
    candidates.resolved ∈ candidates.records := by
  cases candidates with
  | gap before after => exact absurd rfl h
  | one record => exact List.mem_singleton.2 rfl
  | two first second =>
    change preferStandard first second ∈ [first, second]
    unfold preferStandard
    split <;> simp

end CandidateOffsets

variable {source : ZoneSource} {name : String} {fields : LocalFields}

/-- What the strict mode answers is not tried again. -/
theorem Context.toInstant_of_strict {ctx : Context} {zone : Zone} {u : Int}
    (h : zone.instantOf ctx.source .strict fields = .ok u) :
    ctx.toInstant (some zone) fields = .ok u := by
  simp only [toInstant, zoneOr, Option.getD_some, h]

/-- The strict instant of fields in their ranges is their count less the offset that is chosen. -/
theorem Zone.instantOf_strict {zone : Zone} (h : fields.InCalendar) {candidates : CandidateOffsets}
    {record : LocalRecord}
    (hfound : zone.candidateOffsets source (fields.strictMillis / 1000) = .ok candidates)
    (hrecord : chooseRecord .strict candidates = .ok record) :
    zone.instantOf source .strict fields =
      .ok (wrapInt64 (fields.exactMillis - record.offset * 1000)) := by
  have hstrict : localMillis .strict fields = .ok fields.strictMillis := by
    rw [localMillis, (LocalFields.inCalendar_iff.1 h).2]
  simp only [instantOf, hstrict, hfound, hrecord]
  rw [LocalFields.strictMillis, wrapInt64_sub]

/-- The lenient computation takes a time under the record that it resolves to. -/
theorem Zone.instantOf_lenient {zone : Zone} (fields : LocalFields) {candidates : CandidateOffsets}
    (hfound : zone.candidateOffsets source (fields.lenientMillis / 1000) = .ok candidates) :
    zone.instantOf source .lenient fields =
      .ok (wrapInt64 (fields.carriedMillis - candidates.resolved.offset * 1000)) := by
  rw [← wrapInt64_sub, ← LocalFields.lenientMillis]
  simp only [instantOf, localMillis, hfound]
  cases candidates <;> rfl

/-- Fields in range resolve with the record chosen among the candidates of their second. A skipped
time, which is refused at first, resolves in the second attempt. -/
theorem Context.toInstant_eq (ctx : Context) (zone : Zone) (h : fields.InCalendar)
    (hoctober : ¬ (fields.year = cutoverYear ∧ fields.month = 10)) {candidates : CandidateOffsets}
    (hfound : zone.candidateOffsets ctx.source (fields.strictMillis / 1000) = .ok candidates) :
    ctx.toInstant (some zone) fields =
      .ok (wrapInt64 (fields.exactMillis - candidates.resolved.offset * 1000)) := by
  cases candidates with
  | one record => exact toInstant_of_strict (Zone.instantOf_strict h hfound rfl)
  | two first second => exact toInstant_of_strict (Zone.instantOf_strict h hfound rfl)
  | gap before after =>
    have hrefused : zone.instantOf ctx.source .strict fields = .error .skippedLocalTime := by
      simp only [Zone.instantOf, Zone.localMillis, (LocalFields.inCalendar_iff.1 h).2, hfound,
        Zone.chooseRecord]
    -- the refusal names the hour, which is in range, and so the same fields are tried again
    have hretry : retryFields? fields .skippedLocalTime = some fields := by
      simp only [retryFields?, Error.overflowField?, Error.skippedLocalTime]
      exact if_pos h.hour
    rw [← LocalFields.lenientMillis_eq h hoctober] at hfound
    simp only [toInstant, zoneOr, Option.getD_some, hrefused, hretry]
    rw [Zone.instantOf_lenient fields hfound, LocalFields.carriedMillis_eq h hoctober]

/-! ## The local fields of an instant -/

namespace Zone

/-- The clocks of a zone show the fields at an instant. -/
def ShowsFields (source : ZoneSource) (zone : Zone) (fields : LocalFields) (instant : Int) : Prop :=
  FitsInt64 instant ∧ zone.fieldsAt source instant = .ok fields

/-- An instant shows the fields of the local milliseconds that the record in effect leads to. -/
theorem fieldsAt_eq {v : Int} {r : LocalRecord} (h : InEffect (source.offsetAt name) (v / 1000) r) :
    (Zone.named name).fieldsAt source v = .ok (.ofMillis (wrapInt64 (v + r.offset * 1000))) := by
  unfold fieldsAt offsetAt
  simp only [h.2]
  rfl

/-- An instant shows the fields whose milliseconds the record in effect there leads to. -/
theorem showsFields_of_inEffect (h : fields.InCalendar) (hmillis : FitsInt64 fields.exactMillis)
    {v : Int} {r : LocalRecord} (hv : FitsInt64 v) (hr : InEffect (source.offsetAt name) (v / 1000) r)
    (heq : v + r.offset * 1000 = fields.exactMillis) :
    (Zone.named name).ShowsFields source fields v := by
  refine ⟨hv, ?_⟩
  rw [fieldsAt_eq hr, heq, wrapInt64_of_fits hmillis, LocalFields.ofMillis_exactMillis h hmillis]

/-- Fields are shown at the instants that a record in effect there leads to their milliseconds. An
instant at the one end of 64 bits cannot lead to fields at the other, as these would have no
instant under that record. -/
theorem showsFields_iff (hsteady : IsSteady (source.offsetAt name)) (h : fields.InCalendar)
    (hmillis : FitsInt64 fields.exactMillis)
    (hshift : ∀ t r, InEffect (source.offsetAt name) t r →
      FitsInt64 (fields.exactMillis - r.offset * 1000)) {v : Int} :
    (Zone.named name).ShowsFields source fields v ↔
      FitsInt64 v ∧ ∃ r, InEffect (source.offsetAt name) (v / 1000) r ∧
        v + r.offset * 1000 = fields.exactMillis := by
  constructor
  · rintro ⟨hv, hshown⟩
    have hsecond : FitsInt64 (v / 1000) := by
      unfold FitsInt64 at *
      omega
    obtain ⟨r, hr⟩ := hsteady.answers (v / 1000) hsecond
    have heffect : InEffect (source.offsetAt name) (v / 1000) r := ⟨hsecond, hr⟩
    refine ⟨hv, r, heffect, ?_⟩
    rw [fieldsAt_eq heffect, Except.ok.injEq] at hshown
    have hcount := (LocalFields.exactMillis_ofMillis (fits_wrapInt64 (v + r.offset * 1000))).2
    have hback := wrapInt64_add_sub hv (r.offset * 1000)
    rw [← hcount, hshown, wrapInt64_of_fits (hshift _ _ heffect)] at hback
    omega
  · rintro ⟨hv, r, hr, heq⟩
    exact showsFields_of_inEffect h hmillis hv hr heq

/-- Where the fields are shown, so is their second. -/
theorem ShowsFields.shows (hsteady : IsSteady (source.offsetAt name)) (h : fields.InCalendar)
    (hmillis : FitsInt64 fields.exactMillis)
    (hshift : ∀ t r, InEffect (source.offsetAt name) t r →
      FitsInt64 (fields.exactMillis - r.offset * 1000)) {v : Int}
    (hv : (Zone.named name).ShowsFields source fields v) :
    Shows (source.offsetAt name) (fields.exactMillis / 1000) (v / 1000) := by
  obtain ⟨-, r, hr, heq⟩ := (showsFields_iff hsteady h hmillis hshift).1 hv
  exact ⟨r, hr, by omega⟩

/-- A record leads from the fields to an instant that shows them if the instant it leads to from
their second shows that. -/
theorem showsFields_of_shows (h : fields.InCalendar) (hmillis : FitsInt64 fields.exactMillis)
    {r : LocalRecord} (hu : FitsInt64 (fields.exactMillis - r.offset * 1000))
    (hshows : Shows (source.offsetAt name) (fields.exactMillis / 1000)
      (fields.exactMillis / 1000 - r.offset)) :
    (Zone.named name).ShowsFields source fields (fields.exactMillis - r.offset * 1000) := by
  obtain ⟨r', hr', heq⟩ := hshows
  refine showsFields_of_inEffect (r := r') h hmillis hu ?_ (by omega)
  rwa [show (fields.exactMillis - r.offset * 1000) / 1000 =
    fields.exactMillis / 1000 - r.offset by omega]

end Zone

/-! ## Repeated and skipped times -/

/-- The records of two instants that show one time are its candidates, the earlier one first. -/
theorem candidateOffsets_of_shows_twice (hsteady : IsSteady (source.offsetAt name)) {wall s t : Int}
    {rs rt : LocalRecord} (hlow : FitsInt64 (wall - 86400)) (hhigh : FitsInt64 (wall + 86400))
    (hs : InEffect (source.offsetAt name) s rs) (ht : InEffect (source.offsetAt name) t rt)
    (hwalls : s + rs.offset = wall) (hwallt : t + rt.offset = wall) (hst : s < t) :
    candidateOffsets (source.offsetAt name) wall = .ok (.two rs rt) := by
  have hshows : Shows (source.offsetAt name) wall s := ⟨rs, hs, hwalls⟩
  have hshowt : Shows (source.offsetAt name) wall t := ⟨rt, ht, hwallt⟩
  have hmems := hshows.mem hsteady
  have hmemt := hshowt.mem hsteady
  rcases constantAround_or_changesOnceAround hsteady hlow hhigh with ⟨r, h⟩ | ⟨u, b, a, h⟩
  · rw [h.shows_iff hsteady] at hshows hshowt
    omega
  · rw [h.shows_iff hsteady] at hshows hshowt
    have hsu : s < u := by omega
    have hut : u ≤ t := by omega
    have hbefore : rs = b := hs.unique (h.earlier s (by omega) hsu)
    have hafter : rt = a := ht.unique (h.later t hut (by omega))
    rw [h.candidateOffsets_eq hsteady, hbefore, hafter]
    unfold candidatesAround
    rw [if_pos (by omega)]

/-- After a change its record stays in effect for two days. -/
theorem ChangesAt.inEffect_after (hsteady : IsSteady (source.offsetAt name)) {t u : Int}
    {before after : LocalRecord} (h : ChangesAt (source.offsetAt name) t before after)
    (hfits : FitsInt64 u) (htu : t ≤ u) (hut : u < t + 172800) :
    InEffect (source.offsetAt name) u after := by
  refine h.2.1.forward hsteady htu hfits ?_
  intro v b a htv hvu hchange
  have := hsteady.apart t v before after b a h hchange htv
  omega

/-- The record that is chosen is in effect at some instant, also for a time that clocks skip. -/
theorem exists_inEffect_resolved (hsteady : IsSteady (source.offsetAt name)) {wall : Int}
    (hlow : FitsInt64 (wall - 86400)) (hhigh : FitsInt64 (wall + 86400))
    {candidates : CandidateOffsets}
    (hfound : candidateOffsets (source.offsetAt name) wall = .ok candidates) :
    ∃ t, InEffect (source.offsetAt name) t candidates.resolved := by
  rcases constantAround_or_changesOnceAround hsteady hlow hhigh with ⟨r, h⟩ | ⟨t, b, a, h⟩
  · rw [h.candidateOffsets_eq hsteady, Except.ok.injEq] at hfound
    rw [← hfound]
    exact ⟨wall, h wall (by omega) (by omega)⟩
  · rw [h.candidateOffsets_eq hsteady, Except.ok.injEq] at hfound
    have hresolved : candidates.resolved = b ∨ candidates.resolved = a := by
      rw [← hfound]
      unfold candidatesAround
      split_ifs
      · change preferStandard b a = b ∨ preferStandard b a = a
        unfold preferStandard
        split <;> simp
      · exact Or.inl rfl
      · exact Or.inr rfl
      · exact Or.inl rfl
    rcases hresolved with heq | heq
    · rw [heq]
      exact ⟨t - 1, h.changesAt.1⟩
    · rw [heq]
      exact ⟨t, h.changesAt.2.1⟩

section

variable {candidates : CandidateOffsets} (hsteady : IsSteady (source.offsetAt name))
  (h : fields.InCalendar) (hmillis : FitsInt64 fields.exactMillis)
  (hshift : ∀ t r, InEffect (source.offsetAt name) t r →
    FitsInt64 (fields.exactMillis - r.offset * 1000))
  (hfound : candidateOffsets (source.offsetAt name) (fields.exactMillis / 1000) = .ok candidates)

/-- A day to either side of local milliseconds that fit there are seconds that fit. -/
theorem fits_around_second (hmillis : FitsInt64 fields.exactMillis) :
    FitsInt64 (fields.exactMillis / 1000 - 86400) ∧
      FitsInt64 (fields.exactMillis / 1000 + 86400) := by
  unfold FitsInt64 at *
  omega

include hsteady h hmillis hshift hfound

/-- Fields that are shown at some instant are shown at the one they resolve to. -/
theorem showsFields_resolved
    (hu : FitsInt64 (fields.exactMillis - candidates.resolved.offset * 1000))
    {v : Int} (hv : (Zone.named name).ShowsFields source fields v) :
    (Zone.named name).ShowsFields source fields
      (fields.exactMillis - candidates.resolved.offset * 1000) := by
  obtain ⟨hlow, hhigh⟩ := fits_around_second hmillis
  obtain ⟨found, hfound', hmem, -⟩ := exists_candidates hsteady hlow hhigh
  rw [hfound, Except.ok.injEq] at hfound'
  rw [← hfound'] at hmem
  obtain ⟨r, hr, -⟩ := (hmem _).2 (hv.shows hsteady h hmillis hshift)
  have hresolved := CandidateOffsets.resolved_mem (List.ne_nil_of_mem hr)
  exact Zone.showsFields_of_shows h hmillis hu ((hmem _).1 ⟨_, hresolved, rfl⟩)

/-- Of two instants that show the fields, the one in standard time is taken if only one is, and the
earlier one otherwise. -/
theorem resolved_of_showsFields_twice {v w : Int} {rv rw : LocalRecord} (hvw : v < w)
    (hv : (Zone.named name).ShowsFields source fields v)
    (hw : (Zone.named name).ShowsFields source fields w)
    (hrv : InEffect (source.offsetAt name) (v / 1000) rv)
    (hrw : InEffect (source.offsetAt name) (w / 1000) rw) :
    fields.exactMillis - candidates.resolved.offset * 1000 =
      if rv.isDst = true ∧ rw.isDst = false then w else v := by
  obtain ⟨hlow, hhigh⟩ := fits_around_second hmillis
  obtain ⟨-, rv', hrv', hwallv⟩ := (Zone.showsFields_iff hsteady h hmillis hshift).1 hv
  obtain ⟨-, rw', hrw', hwallw⟩ := (Zone.showsFields_iff hsteady h hmillis hshift).1 hw
  rw [hrv'.unique hrv] at hwallv
  rw [hrw'.unique hrw] at hwallw
  have htwo := candidateOffsets_of_shows_twice hsteady hlow hhigh hrv hrw (by omega) (by omega)
    (by omega)
  rw [hfound, Except.ok.injEq] at htwo
  rw [htwo]
  change fields.exactMillis - (preferStandard rv rw).offset * 1000 = _
  unfold preferStandard
  split <;> omega

/-- Fields that no instant shows were skipped by a change, and resolve to an instant after it. -/
theorem resolved_of_not_showsFields
    (hno : ∀ v, ¬ (Zone.named name).ShowsFields source fields v) :
    ∃ t before after, ChangesAt (source.offsetAt name) t before after ∧
      t + before.offset ≤ fields.exactMillis / 1000 ∧
      fields.exactMillis / 1000 < t + after.offset ∧
      candidates.resolved = before ∧
      InEffect (source.offsetAt name)
        ((fields.exactMillis - before.offset * 1000) / 1000) after := by
  obtain ⟨hlow, hhigh⟩ := fits_around_second hmillis
  obtain ⟨found, hfound', hmem, -⟩ := exists_candidates hsteady hlow hhigh
  rw [hfound, Except.ok.injEq] at hfound'
  rw [← hfound'] at hmem
  -- a candidate would lead to an instant that shows the fields
  have hnil : candidates.records = [] := by
    refine List.eq_nil_iff_forall_not_mem.2 fun r hr => ?_
    have hshows := (hmem _).1 ⟨r, hr, rfl⟩
    obtain ⟨r', hr', heq⟩ := hshows
    rw [show fields.exactMillis / 1000 - r.offset = fields.exactMillis / 1000 - r'.offset
      by omega] at hr'
    exact hno _ (Zone.showsFields_of_shows h hmillis (hshift _ _ hr')
      ⟨r', hr', by omega⟩)
  obtain ⟨before, after, rfl⟩ := (CandidateOffsets.records_eq_nil_iff candidates).1 hnil
  obtain ⟨t, hchange, hle, hlt, -⟩ := exists_changesAt_of_gap hsteady hlow hhigh hfound
  have hbefore := hsteady.bounded _ _ hchange.1
  have hafter := hsteady.bounded _ _ hchange.2.1
  refine ⟨t, before, after, hchange, hle, hlt, rfl, ?_⟩
  rw [show (fields.exactMillis - before.offset * 1000) / 1000 =
    fields.exactMillis / 1000 - before.offset by omega]
  exact hchange.inEffect_after hsteady (fitsInt64_of_mem hlow hhigh (by omega) (by omega))
    (by omega) (by omega)

end

/-- Local fields resolve in every steady zone of a source that searches. Those that some instant
shows resolve to an instant that shows them: of two such instants, to the one in standard time if
exactly one is, and to the earlier one otherwise. Those that no instant shows were skipped by a
change of record. They resolve with the record before it, to an instant that shows them moved
forward by the change, as long as the milliseconds that are moved to have 64 bits. -/
theorem Session.toInstant_resolves (session : Session) (name : String)
    (hsearches : session.context.source.Searches name) {fields : LocalFields}
    (hfields : fields.InCalendar)
    (hoctober : ¬ (fields.year = cutoverYear ∧ fields.month = 10))
    (hsteady : IsSteady (session.context.source.offsetAt name))
    (hmillis : FitsInt64 fields.exactMillis)
    (hshift : ∀ t r, InEffect (session.context.source.offsetAt name) t r →
      FitsInt64 (fields.exactMillis - r.offset * 1000)) :
    ∃ u, (toInstant (some (.named name)) fields session).1 = .ok u ∧ FitsInt64 u ∧
      ((∃ v, (Zone.named name).ShowsFields session.context.source fields v) →
        (Zone.named name).fieldsAt session.context.source u = .ok fields) ∧
      (∀ v w rv rw, v < w →
        (Zone.named name).ShowsFields session.context.source fields v →
        (Zone.named name).ShowsFields session.context.source fields w →
        InEffect (session.context.source.offsetAt name) (v / 1000) rv →
        InEffect (session.context.source.offsetAt name) (w / 1000) rw →
          (rv.isDst = false → rw.isDst = true → u = v) ∧
          (rv.isDst = true → rw.isDst = false → u = w) ∧ (rv.isDst = rw.isDst → u = v)) ∧
      ((∀ v, ¬ (Zone.named name).ShowsFields session.context.source fields v) →
        ∃ t before after, ChangesAt (session.context.source.offsetAt name) t before after ∧
          t + before.offset ≤ fields.exactMillis / 1000 ∧
          fields.exactMillis / 1000 < t + after.offset ∧
          u = fields.exactMillis - before.offset * 1000 ∧
          ∃ moved, (Zone.named name).fieldsAt session.context.source u = .ok moved ∧
            moved.InCalendar ∧
            (FitsInt64 (fields.exactMillis + (after.offset - before.offset) * 1000) →
              moved.exactMillis =
                fields.exactMillis + (after.offset - before.offset) * 1000)) := by
  obtain ⟨hlow, hhigh⟩ := fits_around_second hmillis
  obtain ⟨candidates, hfound, -⟩ := exists_candidates hsteady hlow hhigh
  obtain ⟨t, ht⟩ := exists_inEffect_resolved hsteady hlow hhigh hfound
  have hu := hshift t _ ht
  refine ⟨fields.exactMillis - candidates.resolved.offset * 1000, ?_, hu, ?_, ?_, ?_⟩
  · have hasked : (Zone.named name).candidateOffsets session.context.source
        (fields.strictMillis / 1000) = .ok candidates := by
      rw [LocalFields.strictMillis_of_fits hmillis]
      exact (hsearches _).trans hfound
    rw [toInstant_some, session.context.toInstant_eq (.named name) hfields hoctober hasked,
      wrapInt64_of_fits hu]
  · rintro ⟨v, hv⟩
    exact (showsFields_resolved hsteady hfields hmillis hshift hfound hu hv).2
  · intro v w rv rw hvw hv hw hrv hrw
    rw [resolved_of_showsFields_twice hsteady hfields hmillis hshift hfound hvw hv hw hrv hrw]
    cases rv.isDst <;> cases rw.isDst <;> simp
  · intro hno
    obtain ⟨t, before, after, hchange, hle, hlt, hresolved, hafter⟩ :=
      resolved_of_not_showsFields hsteady hfields hmillis hshift hfound hno
    rw [hresolved] at hu ⊢
    refine ⟨t, before, after, hchange, hle, hlt, rfl, _, Zone.fieldsAt_eq hafter, ?_⟩
    have hmoved : fields.exactMillis - before.offset * 1000 + after.offset * 1000 =
        fields.exactMillis + (after.offset - before.offset) * 1000 := by omega
    obtain ⟨hrange, hcount⟩ := LocalFields.exactMillis_ofMillis
      (fits_wrapInt64 (fields.exactMillis - before.offset * 1000 + after.offset * 1000))
    refine ⟨hrange, fun hfits => ?_⟩
    rw [hcount, hmoved, wrapInt64_of_fits hfits]

/-- Half past one on the night in November on which the clocks were set back from two to one is
taken in standard time. -/
theorem Session.toInstant_resolves_newYork :
    (toInstant (some (.named "America/New_York")) ⟨2017, 11, 5, 1, 30, 0, 0⟩
      (.new ⟨newYork2017.source, .utc⟩)).1 = .ok 1509863400000 := by
  have hcount : LocalFields.exactMillis ⟨2017, 11, 5, 1, 30, 0, 0⟩ = 1509845400000 := by decide
  obtain ⟨u, hu, -, -, htwice, -⟩ := @toInstant_resolves (.new ⟨newYork2017.source, .utc⟩)
    "America/New_York" (newYork2017.searches _) ⟨2017, 11, 5, 1, 30, 0, 0⟩
    ⟨by decide, by decide, by decide, by decide, by decide, by decide⟩ (by decide)
    isSteady_newYork2017 (by decide)
    (by
      intro t r hr
      have hbound := isSteady_newYork2017.bounded t r hr
      rw [hcount]
      unfold FitsInt64
      omega)
  obtain ⟨-, hstandard, -⟩ := htwice 1509859800000 1509863400000 (.daylight (-14400))
    (.standard (-18000)) (by decide) ⟨by decide, by decide⟩ ⟨by decide, by decide⟩
    ⟨by decide, rfl⟩ ⟨by decide, rfl⟩
  rw [hu, hstandard rfl rfl]

end CivilTime
