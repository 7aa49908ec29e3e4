import CivilTime.Proofs.Date.Weekday
import CivilTime.Zone.Catalogue
import Mathlib.Data.List.Basic
import Mathlib.Tactic.SplitIfs

/-!
# Lookups in the history of a zone

The bisected lookups are compared with reading the table of changes from its start. A well-formed
history, which is what compiled data holds, answers at every instant: with its rule after the last
change, and before that with what the last change up to the instant brought, or with the first
record if there was none (`lookups_eq_linear`). For the standard offset only the changes to
standard time are read. Within an offset of the least and the greatest instant the lookup of a rule
goes by a sum that wraps.
-/

set_option autoImplicit false

namespace CivilTime

/-! ## Bisection -/

section Bisection

variable {times : Array Int}

/-- In an ascending table, a later entry is no smaller. -/
theorem le_of_ascending (h : times.toList.Pairwise (· ≤ ·)) {i j : Nat} (hij : i ≤ j)
    (hj : j < times.size) : times[i] ≤ times[j] := by
  rcases Nat.lt_or_eq_of_le hij with hlt | rfl
  · exact List.pairwise_iff_getElem.1 h i j (by simpa using Nat.lt_trans hlt hj) (by simpa using hj)
      hlt
  · exact Int.le_refl _

/-- Bisection keeps what is up to the instant below its bounds and what is after it above, and ends
where the two meet. -/
theorem bisect_spec (h : times.toList.Pairwise (· ≤ ·)) {instant : Int} {lo hi : Nat}
    (hhi : hi ≤ times.size) (hlohi : lo ≤ hi)
    (hbelow : ∀ i (hi : i < times.size), i < lo → times[i] ≤ instant)
    (habove : ∀ i (hi' : i < times.size), hi ≤ i → instant < times[i]) :
    bisect times instant lo hi hhi ≤ times.size ∧
      (∀ i (hi' : i < times.size), i < bisect times instant lo hi hhi → times[i] ≤ instant) ∧
      (∀ i (hi' : i < times.size), bisect times instant lo hi hhi ≤ i → instant < times[i]) := by
  fun_induction bisect times instant lo hi hhi with
  | case1 lo hi hhi hlt mid hle ih =>
    apply ih (by omega) _ habove
    intro i hi' hmid
    have := le_of_ascending h (show i ≤ mid by omega) (by omega)
    omega
  | case2 lo hi hhi hlt mid hgt ih =>
    apply ih (by omega) hbelow
    intro i hi' hmid
    have := le_of_ascending h hmid hi'
    omega
  | case3 lo hi hhi hge =>
    refine ⟨by omega, hbelow, ?_⟩
    intro i hi' hlo
    exact habove i hi' (by omega)

end Bisection

/-! ## Rules -/

namespace ZoneRule

/-- In standard time a rule shows its standard offset. -/
theorem offset_of_isStandard (rule : ZoneRule) {instant : Int}
    (h : (rule.recordAt instant).isDst = false) :
    rule.standardOffset = (rule.recordAt instant).offset := by
  unfold recordAt at h ⊢
  cases hrule : rule.daylight with
  | none => rfl
  | some daylight =>
    simp only [hrule, recordInYear] at h ⊢
    split_ifs at h ⊢
    · cases h
    · rfl

/-- What clocks show at an instant, if the seconds of standard time that the lookup of a rule with
daylight saving time goes by fit in 64 bits. There is no answer otherwise. -/
def recordAtStored (rule : ZoneRule) (instant : Int) : Option LocalRecord :=
  match rule.daylight with
  | none => some (.standard rule.standardOffset)
  | some daylight =>
    (fitInt64? (instant + rule.standardOffset)).map fun seconds =>
      rule.recordInYear daylight (Date.ofAbsoluteDay (seconds / Clock.secondsPerDay)).year instant

/-- The sum in the lookup of a rule wraps only where it does not fit. -/
theorem recordAtStored_eq (rule : ZoneRule) (instant : Int) :
    rule.recordAtStored instant =
      if rule.daylight = none ∨ FitsInt64 (instant + rule.standardOffset) then
        some (rule.recordAt instant)
      else none := by
  cases hrule : rule.daylight with
  | none => simp only [recordAtStored, recordAt, hrule, true_or, if_true]
  | some daylight =>
    simp only [recordAtStored, recordAt, hrule, reduceCtorEq, false_or, fitInt64?]
    split
    · next hfits => simp only [Option.map_some, wrapInt64_of_fits hfits]
    · rfl

end ZoneRule

namespace ZoneHistory

/-! ## Well-formed histories -/

/-- Where nothing is left out, entries keep their places. -/
theorem getElem?_filterMap {α β : Type} {f : α → Option β} {l : List α}
    (h : ∀ a ∈ l, (f a).isSome) (i : Nat) : (l.filterMap f)[i]? = (l[i]?).bind f := by
  induction l generalizing i with
  | nil => simp
  | cons a l ih =>
    obtain ⟨b, hb⟩ := Option.isSome_iff_exists.1 (h a List.mem_cons_self)
    have hrest := ih fun x hx => h x (List.mem_cons_of_mem a hx)
    rw [List.filterMap_cons_some hb]
    cases i with
    | zero => simp [hb]
    | succ i => simpa using hrest i

/-- The tables fit together, and the instants ascend. -/
structure IsWellFormed (history : ZoneHistory) : Prop where
  records_pos : 0 < history.records.size
  size_types : history.types.size = history.times.size
  type_lt : ∀ type ∈ history.types, type < history.records.size
  ascending : history.times.toList.Pairwise (· ≤ ·)

/-- The changes, in the order of the table, with the records that they bring. -/
def changes (history : ZoneHistory) : List Transition :=
  (history.times.toList.zip history.types.toList).filterMap fun (time, type) =>
    (history.records[type]?).map (Transition.mk time)

variable {history : ZoneHistory}

/-- A well-formed history has a first record. -/
theorem IsWellFormed.exists_firstRecord (h : history.IsWellFormed) :
    ∃ initial, history.records[0]? = some initial ∧ history.firstRecord = .ok initial := by
  have hfirst := Array.getElem?_eq_getElem h.records_pos
  refine ⟨_, hfirst, ?_⟩
  rw [firstRecord, hfirst]

/-- There are no more changes than times. -/
theorem length_changes_le (history : ZoneHistory) :
    history.changes.length ≤ history.times.size := by
  calc history.changes.length
      ≤ (history.times.toList.zip history.types.toList).length := List.length_filterMap_le _ _
    _ ≤ history.times.toList.length := by
      rw [List.length_zip]
      exact Nat.min_le_left _ _
    _ = history.times.size := Array.length_toList

/-- Every time of the table has a record, which is that of the change at this place. -/
theorem IsWellFormed.recordOfChange (h : history.IsWellFormed) {i : Nat}
    (hi : i < history.times.size) :
    ∃ record, history.recordOfChange i = .ok record ∧
      history.changes[i]? = some ⟨history.times[i], record⟩ := by
  have hi' : i < history.types.size := by
    rw [h.size_types]
    exact hi
  have hlt := h.type_lt history.types[i] (Array.getElem_mem hi')
  have hrecord := Array.getElem?_eq_getElem hlt
  refine ⟨history.records[history.types[i]], ?_, ?_⟩
  · unfold ZoneHistory.recordOfChange
    rw [Array.getElem?_eq_getElem hi']
    dsimp only
    rw [hrecord]
  · have hzip : (history.times.toList.zip history.types.toList)[i]? =
        some (history.times[i], history.types[i]) := by
      rw [List.getElem?_zip_eq_some]
      simp [hi, hi']
    have hsome : ∀ p ∈ history.times.toList.zip history.types.toList,
        ((history.records[p.2]?).map (Transition.mk p.1)).isSome := by
      intro p hp
      have hmem := h.type_lt p.2 (Array.mem_toList_iff.1 (List.of_mem_zip hp).2)
      simp [hmem]
    rw [changes, getElem?_filterMap hsome, hzip]
    simp [hrecord]

/-- The number of changes up to an instant is found by bisection. -/
theorem IsWellFormed.exists_count (h : history.IsWellFormed) (instant : Int) :
    ∃ n ≤ history.times.size,
      (∀ i (hi : i < history.times.size), history.times[i] ≤ instant ↔ i < n) ∧
      history.changeAt? instant = if n = 0 then none else some (n - 1) := by
  obtain ⟨hn, hbelow, habove⟩ := @bisect_spec _ h.ascending instant 0 _ (Nat.le_refl _)
    (Nat.zero_le _) (by omega) (by omega)
  refine ⟨_, hn, ?_, ?_⟩
  · intro i hi
    constructor
    · intro hle
      by_contra hge
      have := habove i hi (by omega)
      omega
    · exact hbelow i hi
  · unfold changeAt? placeOf
    generalize bisect history.times instant 0 history.times.size (Nat.le_refl _) = n
    cases n with
    | zero => rfl
    | succ n =>
      dsimp only
      split_ifs <;> simp_all

/-! ## Lookups -/

/-- The record that the last of some changes brings, or the initial one. -/
def lastRecord (initial : LocalRecord) (changes : List Transition) : LocalRecord :=
  match changes.getLast? with
  | some change => change.record
  | none => initial

/-- Leaving daylight saving time out of a table is leaving it out of what is read of the table. -/
theorem tableRecordAt_filter (initial : LocalRecord) (changes : List Transition) (instant : Int) :
    tableRecordAt initial (changes.filter fun change => !change.record.isDst) instant =
      lastRecord initial ((changes.filter fun change => change.instant ≤ instant).filter
        fun change => !change.record.isDst) := by
  rw [List.filter_comm]
  rfl

/-- If exactly the first entries satisfy a condition, filtering takes these. -/
theorem filter_eq_take {α : Type} {p : α → Bool} {l : List α} {n : Nat}
    (h : ∀ i (hi : i < l.length), p l[i] = true ↔ i < n) : l.filter p = l.take n := by
  have htake : (l.take n).filter p = l.take n := by
    rw [List.filter_eq_self]
    intro a ha
    obtain ⟨i, hi, rfl⟩ := List.mem_take_iff_getElem.1 ha
    exact (h i (by omega)).2 (by omega)
  have hdrop : (l.drop n).filter p = [] := by
    rw [List.filter_eq_nil_iff]
    intro a ha
    obtain ⟨i, hi, rfl⟩ := List.mem_drop_iff_getElem.1 ha
    rw [h (n + i) (by omega)]
    omega
  calc l.filter p = (l.take n ++ l.drop n).filter p := by rw [List.take_append_drop]
    _ = l.take n := by rw [List.filter_append, htake, hdrop, List.append_nil]

/-- The changes up to an instant are the first of the table. -/
theorem IsWellFormed.filter_changes (h : history.IsWellFormed) {instant : Int} {n : Nat}
    (hn : ∀ i (hi : i < history.times.size), history.times[i] ≤ instant ↔ i < n) :
    (history.changes.filter fun change => change.instant ≤ instant) = history.changes.take n := by
  apply filter_eq_take
  intro i hi
  have hsize : i < history.times.size := Nat.lt_of_lt_of_le hi history.length_changes_le
  obtain ⟨record, -, hchange⟩ := h.recordOfChange hsize
  rw [List.getElem?_eq_getElem hi, Option.some.injEq] at hchange
  rw [hchange, decide_eq_true_eq]
  exact hn i hsize

/-- The record of a change is the last that the changes up to it bring. -/
theorem IsWellFormed.lastRecord_take (h : history.IsWellFormed) {initial : LocalRecord} {n : Nat}
    (hn : n < history.times.size) :
    history.recordOfChange n = .ok (lastRecord initial (history.changes.take (n + 1))) := by
  obtain ⟨record, hrecord, hchange⟩ := h.recordOfChange hn
  have hlast : (history.changes.take (n + 1)).getLast? = some ⟨history.times[n], record⟩ := by
    rw [List.take_add_one, hchange]
    simp
  rw [hrecord, lastRecord, hlast]

/-- Walking back to the last standard time is reading the changes to standard time only. -/
theorem IsWellFormed.lastStandardOffset_eq (h : history.IsWellFormed) {initial : LocalRecord}
    (hinitial : history.firstRecord = .ok initial) {n : Nat} (hn : n ≤ history.times.size) :
    history.lastStandardOffset n =
      .ok (lastRecord initial
        ((history.changes.take n).filter fun change => !change.record.isDst)).offset := by
  induction n with
  | zero =>
    rw [lastStandardOffset, hinitial]
    rfl
  | succ n ih =>
    obtain ⟨record, hrecord, hchange⟩ := h.recordOfChange (show n < history.times.size by omega)
    have hprevious := ih (by omega)
    rw [lastStandardOffset, hrecord, List.take_add_one, hchange, List.filter_append]
    dsimp only
    cases hdst : record.isDst with
    | true => simp [hprevious, hdst]
    | false => simp [lastRecord, hdst]

/-- Where the last change brings standard time, leaving out daylight saving time changes nothing. -/
theorem offset_lastRecord_filter {initial : LocalRecord} {changes : List Transition}
    (h : (lastRecord initial changes).isDst = false) :
    lastRecord initial (changes.filter fun change => !change.record.isDst) =
      lastRecord initial changes := by
  rcases List.eq_nil_or_concat changes with rfl | ⟨before, change, rfl⟩
  · rfl
  · have hdst : change.record.isDst = false := by simpa [lastRecord] using h
    simp [lastRecord, hdst]

/-- The rule counts where every change has passed. -/
theorem IsWellFormed.ruleAt?_eq (h : history.IsWellFormed) (instant : Int) :
    history.ruleAt? instant =
      if ∀ time ∈ history.times, time < instant then history.rule else none := by
  unfold ruleAt?
  cases hlast : history.times.back? with
  | none =>
    rw [Array.back?_eq_none_iff] at hlast
    simp [hlast]
  | some last =>
    rw [Array.back?_eq_getElem?] at hlast
    obtain ⟨hpos, rfl⟩ := Array.getElem?_eq_some_iff.1 hlast
    dsimp only
    by_cases hlt : history.times[history.times.size - 1] < instant
    · rw [if_pos hlt, if_pos]
      intro time htime
      obtain ⟨i, hi, rfl⟩ := Array.mem_iff_getElem.1 htime
      exact Int.lt_of_le_of_lt (le_of_ascending h.ascending (by omega) hpos) hlt
    · rw [if_neg hlt, if_neg]
      intro hall
      exact hlt (hall _ (Array.getElem_mem hpos))

/-- In the table, what the lookups answer is what reading the changes from the start answers. -/
theorem IsWellFormed.recordAt_of_ruleAt?_eq_none (h : history.IsWellFormed) {initial : LocalRecord}
    (hinitial : history.firstRecord = .ok initial) {instant : Int}
    (hrule : history.ruleAt? instant = none) :
    history.recordAt instant = .ok (tableRecordAt initial history.changes instant) ∧
      history.standardOffsetAt instant =
        .ok (tableRecordAt initial (history.changes.filter fun change => !change.record.isDst)
          instant).offset := by
  obtain ⟨n, hn, hcount, hchange⟩ := h.exists_count instant
  have htable := h.filter_changes hcount
  have hstandard := h.lastStandardOffset_eq hinitial hn
  have hrecord : tableRecordAt initial history.changes instant =
      lastRecord initial (history.changes.take n) := by
    rw [← htable]
    rfl
  unfold recordAt standardOffsetAt
  rw [hrule, hchange, hrecord, tableRecordAt_filter, htable, ← hstandard]
  cases n with
  | zero => exact ⟨hinitial, rfl⟩
  | succ n => exact ⟨h.lastRecord_take (by omega), rfl⟩

/-- The lookups of a history at an instant answer a record and a standard offset, and these are what
is read of the history from its start. If there is a rule, it counts after the last change, also
where there is no change at all. Up to the last change, the record is the one that the last change
up to the instant brought, or the first of all, and the standard offset is found in the same way
among the changes to standard time. So in standard time the standard offset is the offset. -/
structure AnswersLinearly (history : ZoneHistory) (instant : Int) (record : LocalRecord)
    (offset : Int) : Prop where
  recordAt_eq : history.recordAt instant = .ok record
  standardOffsetAt_eq : history.standardOffsetAt instant = .ok offset
  of_rule : ∀ rule, history.rule = some rule → (∀ time ∈ history.times, time < instant) →
    record = rule.recordAt instant ∧ offset = rule.standardOffset
  of_table : history.rule = none ∨ (∃ time ∈ history.times, instant ≤ time) →
    ∃ initial, history.records[0]? = some initial ∧
      record = tableRecordAt initial history.changes instant ∧
      offset = (tableRecordAt initial
        (history.changes.filter fun change => !change.record.isDst) instant).offset
  of_isStandard : record.isDst = false → offset = record.offset

/-- After the last change the lookups answer with the rule. -/
theorem IsWellFormed.answersLinearly_of_rule (h : history.IsWellFormed) {instant : Int}
    {rule : ZoneRule} (hrule : history.ruleAt? instant = some rule) :
    history.AnswersLinearly instant (rule.recordAt instant) rule.standardOffset := by
  have hruleAt := h.ruleAt?_eq instant
  rw [hrule] at hruleAt
  split_ifs at hruleAt with hall
  constructor
  · simp only [recordAt, hrule]
  · simp only [standardOffsetAt, hrule]
  · intro rule' hrule' _
    rw [hrule', Option.some.injEq] at hruleAt
    rw [hruleAt]
    exact ⟨rfl, rfl⟩
  · rintro (hnone | ⟨time, htime, hle⟩)
    · rw [hnone] at hruleAt
      cases hruleAt
    · have := hall time htime
      omega
  · exact rule.offset_of_isStandard

/-- Up to the last change, and without a rule at every instant, the lookups answer with the table.
-/
theorem IsWellFormed.answersLinearly_of_table (h : history.IsWellFormed) {instant : Int}
    (hnone : history.ruleAt? instant = none) :
    ∃ record offset, history.AnswersLinearly instant record offset := by
  obtain ⟨initial, hfirst, hinitial⟩ := h.exists_firstRecord
  have hruleAt := h.ruleAt?_eq instant
  obtain ⟨hrecord, hoffset⟩ := h.recordAt_of_ruleAt?_eq_none hinitial hnone
  refine ⟨_, _, hrecord, hoffset, ?_, ?_, ?_⟩
  · intro rule hrule hall
    rw [hnone, if_pos hall, hrule] at hruleAt
    cases hruleAt
  · intro _
    exact ⟨initial, hfirst, rfl, rfl⟩
  · intro hdst
    rw [tableRecordAt_filter, offset_lastRecord_filter hdst]
    rfl

/-- Every lookup in a well-formed history answers. -/
theorem IsWellFormed.exists_answersLinearly (h : history.IsWellFormed) (instant : Int) :
    ∃ record offset, history.AnswersLinearly instant record offset := by
  cases hrule : history.ruleAt? instant with
  | some rule => exact ⟨_, _, h.answersLinearly_of_rule hrule⟩
  | none => exact h.answersLinearly_of_table hrule

/-- Bisection answers what reading the tables from the start answers, at every instant, and never
leads out of them. The one sum on the way, which gives a rule with daylight saving time the seconds
of standard time, is the exact one wherever it fits in 64 bits. Elsewhere it wraps: there the answer
is that of the wrapped sum, and a lookup that stops at an overflow has none. -/
theorem lookups_eq_linear (h : history.IsWellFormed) (instant : Int) :
    ∃ record offset, history.AnswersLinearly instant record offset ∧
      ∀ rule, history.rule = some rule → (∀ time ∈ history.times, time < instant) →
        (rule.recordAtStored instant = some record ↔
          rule.daylight = none ∨ FitsInt64 (instant + rule.standardOffset)) := by
  obtain ⟨record, offset, hanswers⟩ := h.exists_answersLinearly instant
  refine ⟨record, offset, hanswers, ?_⟩
  intro rule hrule hall
  obtain ⟨rfl, -⟩ := hanswers.of_rule rule hrule hall
  rw [rule.recordAtStored_eq]
  split_ifs with hfits
  · exact iff_of_true rfl hfits
  · exact iff_of_false nofun hfits

/-- A zone with a local mean time, one summer, and standard time ever after. -/
def oneSummer : ZoneHistory :=
  ⟨#[0, 100, 200], #[1, 2, 1], #[.standard 600, .standard 3600, .daylight 7200],
    some ⟨3600, none⟩⟩

/-- The second before the summer ends, which is before the rule takes over. -/
theorem lookups_eq_linear_oneSummer :
    oneSummer.recordAt 199 = .ok (.daylight 7200) ∧ oneSummer.standardOffsetAt 199 = .ok 3600 := by
  obtain ⟨record, offset, hanswers, -⟩ :=
    @lookups_eq_linear oneSummer ⟨by decide, rfl, by decide, by decide⟩ 199
  obtain ⟨initial, hfirst, hrecord, hoffset⟩ :=
    hanswers.of_table (Or.inr ⟨200, by simp [oneSummer], by decide⟩)
  cases hfirst
  rw [hanswers.recordAt_eq, hanswers.standardOffsetAt_eq, hrecord, hoffset]
  exact ⟨rfl, rfl⟩

end ZoneHistory

end CivilTime
