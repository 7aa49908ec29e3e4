import CivilTime.Proofs.Date.DayOfYear
import CivilTime.Proofs.Local.FixedZone
import Mathlib.Logic.Relation

/-!
# Carrying and the strict computation

Fields that exceed their range are the same time as the fields that are left when the excess is
carried into the next larger field, one field after the other. The lenient computation gives both
one instant, and for fields in range this is the instant of the strict computation
(`instant_lenient`). It counts the days of a month from its first day, though, and so it goes wrong
in one month: in October 1582 the days after the change of calendar come out ten days late.
-/

set_option autoImplicit false

namespace CivilTime

namespace LocalFields

/-! ## Carrying -/

/-- One carry: whole units of a field are moved into the next larger one, or taken from there. A
month in which the calendar left out days has no last day to carry from. -/
inductive Carry : LocalFields → LocalFields → Prop
  | milliseconds (fields : LocalFields) (n : Int) :
    Carry fields
      { fields with second := fields.second + n, millisecond := fields.millisecond - 1000 * n }
  | seconds (fields : LocalFields) (n : Int) :
    Carry fields { fields with minute := fields.minute + n, second := fields.second - 60 * n }
  | minutes (fields : LocalFields) (n : Int) :
    Carry fields { fields with hour := fields.hour + n, minute := fields.minute - 60 * n }
  | hours (fields : LocalFields) (n : Int) :
    Carry fields { fields with day := fields.day + n, hour := fields.hour - 24 * n }
  | days (fields : LocalFields) (hyear : FitsInt32 fields.year)
    (hmonth : 1 ≤ fields.month ∧ fields.month ≤ 12)
    (hnext : FitsInt32 ((fields.year * 12 + fields.month) / 12))
    (hoctober : ¬ (fields.year = cutoverYear ∧ fields.month = 10)) :
    Carry fields
      { fields with
        month := fields.month + 1
        day := fields.day - daysInMonth fields.year fields.month }
  | months (fields : LocalFields) (n : Int) :
    Carry fields { fields with year := fields.year + n, month := fields.month - 12 * n }

/-- Carries, in either direction, lead from the one fields to the other. -/
def SameTime : LocalFields → LocalFields → Prop := Relation.EqvGen Carry

/-- Carrying from one field into the next keeps the milliseconds. -/
theorem carriedMillis_of_carry {fields carried : LocalFields} (h : Carry fields carried) :
    fields.carriedMillis = carried.carriedMillis := by
  cases h with
  | milliseconds n | seconds n | minutes n =>
    unfold carriedMillis clock Clock.Fields.millis
    dsimp only
    omega
  | hours n =>
    unfold carriedMillis clock Clock.Fields.millis Clock.millisPerDay
    dsimp only
    omega
  | days hyear hmonth hnext hoctober =>
    have hnextMonth := Date.absoluteDay_nextMonth hyear hmonth hnext hoctober
    have hy : (fields.year * 12 + fields.month - 1) / 12 = fields.year := by omega
    have hm : (fields.year * 12 + fields.month - 1) % 12 + 1 = fields.month := by omega
    unfold carriedMillis clock
    dsimp only
    rw [hy, hm, wrapInt32_of_fits hyear,
      show fields.year * 12 + (fields.month + 1) - 1 = fields.year * 12 + fields.month by omega,
      wrapInt32_of_fits hnext, hnextMonth]
    congr 2
    omega
  | months n =>
    have hmonths : (fields.year + n) * 12 + (fields.month - 12 * n) - 1 =
        fields.year * 12 + fields.month - 1 := by omega
    unfold carriedMillis clock
    dsimp only
    rw [hmonths]

/-- Any number of carries changes no time. -/
theorem SameTime.carriedMillis_eq {fields carried : LocalFields} (h : SameTime fields carried) :
    fields.carriedMillis = carried.carriedMillis := by
  induction h with
  | rel _ _ hcarry => exact carriedMillis_of_carry hcarry
  | refl _ => rfl
  | symm _ _ _ ih => exact ih.symm
  | trans _ _ _ _ _ ih₁ ih₂ => exact ih₁.trans ih₂

/-! ## The month of the change of calendar -/

/-- The day is one of the first month after the change of calendar. -/
def IsFirstGregorianMonth (fields : LocalFields) : Prop :=
  fields.year = cutoverYear ∧ fields.month = 10 ∧ 15 ≤ fields.day

instance (fields : LocalFields) : Decidable fields.IsFirstGregorianMonth :=
  inferInstanceAs (Decidable (_ ∧ _ ∧ _))

/-- Of fields in range only those of the first Gregorian month are carried to another time, to that
of ten days later. -/
theorem carriedMillis_eq_ite {fields : LocalFields} (h : fields.InCalendar) :
    fields.carriedMillis =
      fields.exactMillis +
        if fields.IsFirstGregorianMonth then 10 * Clock.millisPerDay else 0 := by
  by_cases hoctober : fields.year = cutoverYear ∧ fields.month = 10
  · obtain ⟨hyear, hmonth⟩ := hoctober
    obtain ⟨-, hday, hgap⟩ := h.date
    rw [hyear, hmonth] at hday
    have hday' : 1 ≤ fields.day ∧ fields.day ≤ 31 := hday
    have hleft : ¬ (5 ≤ fields.day ∧ fields.day ≤ 14) := fun hrange => hgap ⟨hyear, hmonth, hrange⟩
    have hfirst := @Date.absoluteDay_october1582 1 (by omega)
    have hcount := Date.absoluteDay_october1582 hday'
    have hy : (cutoverYear * 12 + 10 - 1) / 12 = cutoverYear := by decide
    have hm : (cutoverYear * 12 + 10 - 1) % 12 + 1 = 10 := by decide
    have hw : wrapInt32 cutoverYear = cutoverYear := by decide
    unfold carriedMillis exactMillis IsFirstGregorianMonth date Clock.millisPerDay
    dsimp only
    simp only [hyear, hmonth, hy, hm, hw, hfirst, hcount, true_and]
    split_ifs <;> omega
  · have hnot : ¬ fields.IsFirstGregorianMonth := fun hfirst => hoctober ⟨hfirst.1, hfirst.2.1⟩
    rw [carriedMillis_eq h hoctober, if_neg hnot, Int.add_zero]

/-- The first Gregorian month is far from the ends of 64 bits. -/
theorem IsFirstGregorianMonth.exactMillis_bounds {fields : LocalFields}
    (hfirst : fields.IsFirstGregorianMonth) (h : fields.InCalendar) :
    -12219292800000 ≤ fields.exactMillis ∧ fields.exactMillis < -12217824000000 := by
  obtain ⟨hyear, hmonth, hlow⟩ := hfirst
  obtain ⟨-, ⟨-, hhigh⟩, -⟩ := h.date
  rw [hyear, hmonth] at hhigh
  have hday : 1 ≤ fields.day ∧ fields.day ≤ 31 := ⟨by omega, hhigh⟩
  have hcount := Date.absoluteDay_october1582 hday
  have hclock := clock_millis_range h
  rw [if_pos (by omega)] at hcount
  unfold exactMillis date Clock.millisPerDay
  rw [hyear, hmonth, hcount]
  omega

end LocalFields

/-! ## Both computations -/

namespace ZoneCalendar

variable {calendar : ZoneCalendar} {offset : Int} (source : ZoneSource)

/-- At a fixed offset, the strict instant of fields in their ranges is their count less the offset.
-/
theorem instant_strict_of_fixed (h : calendar.zone.fixedOffset? = some offset)
    {fields : LocalFields} (hfields : fields.InCalendar) :
    ((calendar.setMode .strict).set fields).instant source =
      .ok (wrapInt64 (fields.exactMillis - offset * 1000)) := by
  have hshifted := @Zone.instantOf_strict source fields calendar.zone hfields _ (.standard offset)
    (Zone.candidateOffsets_of_fixed h _) rfl
  rw [LocalRecord.standard] at hshifted
  exact hshifted

/-- At a fixed offset, the lenient instant of any fields is their carried count less the offset. -/
theorem instant_lenient_of_fixed (h : calendar.zone.fixedOffset? = some offset)
    (fields : LocalFields) :
    ((calendar.setMode .lenient).set fields).instant source =
      .ok (wrapInt64 (fields.carriedMillis - offset * 1000)) := by
  have hshifted := @Zone.instantOf_lenient source calendar.zone fields _
    (Zone.candidateOffsets_of_fixed h _)
  rw [CandidateOffsets.resolved, LocalRecord.standard] at hshifted
  exact hshifted

/-- At a fixed offset, fields in range have one instant in both computations, and so have all fields
that are carried to them, unless the fields are those of the first Gregorian month. In that month
the lenient computation is ten days late, for fields in range as for those carried to them. -/
theorem instant_lenient (h : calendar.zone.fixedOffset? = some offset) {fields : LocalFields}
    (hfields : fields.InCalendar) :
    ∃ u, ((calendar.setMode .strict).set fields).instant source = .ok u ∧
      (¬ fields.IsFirstGregorianMonth →
        ((calendar.setMode .lenient).set fields).instant source = .ok u) ∧
      (fields.IsFirstGregorianMonth →
        ((calendar.setMode .lenient).set fields).instant source =
          .ok (u + 10 * Clock.millisPerDay)) ∧
      ∀ excessive, LocalFields.SameTime excessive fields →
        ((calendar.setMode .lenient).set excessive).instant source =
          ((calendar.setMode .lenient).set fields).instant source := by
  have hmillis := LocalFields.carriedMillis_eq_ite hfields
  refine ⟨_, instant_strict_of_fixed source h hfields, ?_, ?_, ?_⟩
  · intro hfirst
    rw [if_neg hfirst, Int.add_zero] at hmillis
    rw [instant_lenient_of_fixed source h, hmillis]
  · intro hfirst
    have hbounds := hfirst.exactMillis_bounds hfields
    have hoffset := Zone.fixedOffset_bounds h
    have hstrict : FitsInt64 (fields.exactMillis - offset * 1000) := by
      unfold FitsInt64
      omega
    have hlate : FitsInt64 (fields.exactMillis + 10 * Clock.millisPerDay - offset * 1000) := by
      unfold FitsInt64 Clock.millisPerDay
      omega
    rw [if_pos hfirst] at hmillis
    rw [instant_lenient_of_fixed source h, hmillis, wrapInt64_of_fits hstrict,
      wrapInt64_of_fits hlate]
    congr 1
    omega
  · intro excessive hsame
    rw [instant_lenient_of_fixed source h, instant_lenient_of_fixed source h,
      hsame.carriedMillis_eq]

/-- The sixtieth minute of the last hour of a leap day is the start of March. -/
theorem instant_lenient_leapDay :
    (((new .utc).setMode .lenient).set ⟨2020, 2, 29, 23, 60, 0, 0⟩).instant .empty =
      (((new .utc).setMode .strict).set ⟨2020, 3, 1, 0, 0, 0, 0⟩).instant .empty := by
  have hcarried : LocalFields.SameTime ⟨2020, 2, 29, 23, 60, 0, 0⟩ ⟨2020, 3, 1, 0, 0, 0, 0⟩ := by
    refine .trans _ ⟨2020, 2, 29, 24, 0, 0, 0⟩ _ (.rel _ _ (.minutes _ 1)) ?_
    refine .trans _ ⟨2020, 2, 30, 0, 0, 0, 0⟩ _ (.rel _ _ (.hours _ 1)) ?_
    exact .rel _ _ (.days _ (by decide) (by decide) (by decide) (by decide))
  obtain ⟨u, hstrict, hlenient, -, hsame⟩ := @instant_lenient (new .utc) 0 .empty rfl
    ⟨2020, 3, 1, 0, 0, 0, 0⟩
    ⟨by decide, by decide, by decide, by decide, by decide, by decide⟩
  rw [hsame _ hcarried, hlenient (by decide), hstrict]

/-- The day on which the Gregorian calendar began is taken for the one ten days after it. -/
theorem not_instant_lenient_eq_strict :
    LocalFields.InCalendar ⟨1582, 10, 15, 0, 0, 0, 0⟩ ∧
    (((new .utc).setMode .strict).set ⟨1582, 10, 15, 0, 0, 0, 0⟩).instant .empty =
      .ok (-12219292800000) ∧
    (((new .utc).setMode .lenient).set ⟨1582, 10, 15, 0, 0, 0, 0⟩).instant .empty =
      .ok (-12218428800000) :=
  ⟨⟨by decide, by decide, by decide, by decide, by decide, by decide⟩, by decide, by decide⟩

end ZoneCalendar

end CivilTime
