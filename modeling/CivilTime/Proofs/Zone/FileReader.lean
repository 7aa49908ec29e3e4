import CivilTime.Proofs.Zone.History
import CivilTime.Proofs.Zone.RuleDay
import CivilTime.Zone.FileReader

/-!
# Histories and rules from compiled zone data

The checks that compiled data has to pass are those that its lookups rely on: whatever is read is a
well-formed history (`isWellFormed_of_read`), so that every lookup in it answers, and with what its
changes say (`answersLinearly_of_read`). The days of a rule that is read are days that a rule may
have (`isProper_of_rule`).
-/

set_option autoImplicit false

namespace CivilTime

/-! ## Readers that may fail -/

namespace Readers

variable {σ α β : Type} {data rest : σ}

/-- Two readers succeed one after the other if the second succeeds on what the first leaves. -/
theorem bind_eq_some {x : StateT σ Option α} {f : α → StateT σ Option β} {b : β} :
    (x >>= f) data = some (b, rest) ↔
      ∃ a mid, x data = some (a, mid) ∧ f a mid = some (b, rest) := by
  simp only [bind, StateT.bind, Option.bind_eq_some_iff, Prod.exists]

/-- A reader that takes nothing leaves everything. -/
theorem pure_eq_some {a b : α} :
    (pure a : StateT σ Option α) data = some (b, rest) ↔ a = b ∧ data = rest := by
  change some (a, data) = some (b, rest) ↔ _
  rw [Option.some.injEq, Prod.mk.injEq]

end Readers

open Readers

/-! ## Histories -/

namespace FileReader

variable {α : Type} {data rest : List UInt8}

/-- A condition succeeds if it holds, and takes nothing. -/
theorem ensure_eq_some {condition : Bool} {u : Unit} :
    ensure condition data = some (u, rest) ↔ condition = true ∧ data = rest := by
  unfold ensure
  cases condition with
  | true => simp [pure_eq_some]
  | false => simp [failure, StateT.failure]

/-- A reader that is repeated reads as many as it is repeated. -/
theorem length_of_replicate {reader : Reader α} {n : Nat} {xs : List α}
    (h : replicate n reader data = some (xs, rest)) : xs.length = n := by
  induction n generalizing data rest xs with
  | zero =>
    obtain ⟨rfl, -⟩ := pure_eq_some.1 h
    rfl
  | succ n ih =>
    obtain ⟨first, mid, -, h⟩ := bind_eq_some.1 h
    obtain ⟨others, mid', hothers, h⟩ := bind_eq_some.1 h
    obtain ⟨rfl, -⟩ := pure_eq_some.1 h
    rw [List.length_cons, ih hothers]

/-- Comparing neighbours is enough to see that a table ascends. -/
theorem pairwise_of_isAscending {times : List Int} (h : isAscending times = true) :
    times.Pairwise (· ≤ ·) := by
  induction times with
  | nil => exact List.Pairwise.nil
  | cons a times ih =>
    cases times with
    | nil => exact List.pairwise_singleton _ _
    | cons b times =>
      simp only [isAscending, Bool.and_eq_true, decide_eq_true_eq] at h
      have hrest := ih h.2
      refine List.pairwise_cons.2 ⟨?_, hrest⟩
      intro c hc
      rcases List.mem_cons.1 hc with rfl | hc
      · exact h.1
      · exact Int.le_trans h.1 (List.rel_of_pairwise_cons hrest hc)

/-- A header that is read announces at least one record. -/
theorem typeCount_of_header {counts : Header} (h : header data = some (counts, rest)) :
    0 < counts.typeCount := by
  simp only [header, bind_eq_some, ensure_eq_some, pure_eq_some] at h
  -- the magic number, the version, what is skipped, and six counts with what is asked of them
  obtain ⟨_, _, -, _, _, -, _, _, -, _, _, -, _, _, -, _, _, -, _, _, -, _, _, -, _, _, -,
    typeCount, _, -, _, _, -, _, _, ⟨hcounts, -⟩, _, _, -, _, _, -, rfl, -⟩ := h
  simp only [Bool.and_eq_true, bne_iff_ne, ne_eq] at hcounts
  exact Nat.pos_of_ne_zero hcounts.1

/-- A block that is read has as many types as times, the records that its header announces, types
within them, and ascending times. -/
theorem block_spec {counts : Header} {timeBytes : Nat} {tables : Tables}
    (h : block counts timeBytes data = some (tables, rest)) :
    tables.types.length = tables.times.length ∧ tables.records.length = counts.typeCount ∧
      (∀ type ∈ tables.types, type < counts.typeCount) ∧ tables.times.Pairwise (· ≤ ·) := by
  simp only [block, bind_eq_some, ensure_eq_some, pure_eq_some] at h
  -- the three tables with what is asked of them, and then what is left out of the history
  obtain ⟨times, _, htimes, _, _, ⟨hascending, -⟩, types, _, htypes, _, _, ⟨hlt, -⟩,
    records, _, hrecords, _, _, -, _, _, -, _, _, -, _, _, -, _, _, -, rfl, -⟩ := h
  simp only [Bool.and_eq_true] at hascending
  refine ⟨?_, length_of_replicate hrecords, ?_, pairwise_of_isAscending hascending.2⟩
  · rw [length_of_replicate htimes, length_of_replicate htypes]
  · intro type htype
    exact of_decide_eq_true (List.all_eq_true.1 hlt type htype)

/-- The second block is a block with a header of its own, so it has a record. -/
theorem secondBlock_spec {tables : Tables} (h : secondBlock data = some (tables, rest)) :
    tables.types.length = tables.times.length ∧ 0 < tables.records.length ∧
      (∀ type ∈ tables.types, type < tables.records.length) ∧
        tables.times.Pairwise (· ≤ ·) := by
  obtain ⟨counts, mid, hheader, hblock⟩ := bind_eq_some.1 h
  obtain ⟨htypes, hrecords, hlt, hascending⟩ := block_spec hblock
  rw [hrecords]
  exact ⟨htypes, typeCount_of_header hheader, hlt, hascending⟩

/-- Compiled data either holds a well-formed history, or is refused for its form or its age; that
it has no record is never the reason. -/
theorem isWellFormed_of_read (data : List UInt8) :
    (∃ history, read data = .ok history ∧ history.IsWellFormed) ∨
      read data = .error .illformedZoneFile ∨ read data = .error .obsoleteZoneFile := by
  unfold read
  cases firstBlock data with
  | none => exact Or.inr (Or.inl rfl)
  | some first =>
    obtain ⟨_ | _, rest⟩ := first
    · exact Or.inr (Or.inr rfl)
    · dsimp only
      cases hblock : secondBlock rest with
      | none => exact Or.inr (Or.inl rfl)
      | some second =>
        obtain ⟨tables, rest⟩ := second
        obtain ⟨htypes, hpos, hlt, hascending⟩ := secondBlock_spec hblock
        have hne : tables.records ≠ [] := List.length_pos_iff.1 hpos
        dsimp only
        cases footer rest with
        | none => exact Or.inr (Or.inl rfl)
        | some rule =>
          refine Or.inl ⟨_, if_neg hne, ?_⟩
          constructor
          · simpa using hpos
          · simpa using htypes
          · simpa using hlt
          · simpa using hascending

/-- A history that is read of compiled data answers at every instant, and as reading its changes
from the start does. -/
theorem answersLinearly_of_read {bytes : List UInt8} {history : ZoneHistory}
    (h : read bytes = .ok history) (instant : Int) :
    ∃ record offset, history.AnswersLinearly instant record offset := by
  rcases isWellFormed_of_read bytes with ⟨history', hread, hformed⟩ | hread | hread
  · rw [h, Except.ok.injEq] at hread
    rw [hread]
    exact hformed.exists_answersLinearly instant
  · rw [h] at hread
    cases hread
  · rw [h] at hread
    cases hread

end FileReader

/-! ## Rules -/

namespace RuleReader

variable {text rest : List Char}

/-- A number of a rule is within its bounds. -/
theorem number_range {lower upper : Nat} {n : Int} (h : number lower upper text = some (n, rest)) :
    lower ≤ n ∧ n ≤ upper := by
  unfold number at h
  split at h
  · cases h
  · split_ifs at h with hrange
    cases h
    omega

/-- A day of a rule that is read is a day that a rule may have. -/
theorem isProper_of_day {d : RuleDay} (h : day text = some (d, rest)) : d.IsProper := by
  unfold day at h
  obtain ⟨isWeekday, _, -, h⟩ := bind_eq_some.1 h
  cases isWeekday with
  | true =>
    obtain ⟨month, _, hmonth, h⟩ := bind_eq_some.1 h
    obtain ⟨_, _, -, h⟩ := bind_eq_some.1 h
    obtain ⟨week, _, hweek, h⟩ := bind_eq_some.1 h
    obtain ⟨_, _, -, h⟩ := bind_eq_some.1 h
    obtain ⟨weekday, _, hweekday, h⟩ := bind_eq_some.1 h
    obtain ⟨rfl, -⟩ := pure_eq_some.1 h
    exact ⟨number_range hmonth, number_range hweek, number_range hweekday⟩
  | false =>
    obtain ⟨skipsLeapDay, _, -, h⟩ := bind_eq_some.1 h
    cases skipsLeapDay with
    | true =>
      obtain ⟨n, _, hn, h⟩ := bind_eq_some.1 h
      obtain ⟨rfl, -⟩ := pure_eq_some.1 h
      exact number_range hn
    | false =>
      obtain ⟨n, _, hn, h⟩ := bind_eq_some.1 h
      obtain ⟨rfl, -⟩ := pure_eq_some.1 h
      exact number_range hn

/-- The day of a date that is read is a day that a rule may have. -/
theorem isProper_of_date {d : RuleDate} (h : date text = some (d, rest)) : d.day.IsProper := by
  unfold date at h
  obtain ⟨day, _, hday, h⟩ := bind_eq_some.1 h
  obtain ⟨hasTime, _, -, h⟩ := bind_eq_some.1 h
  cases hasTime with
  | true =>
    obtain ⟨time, _, -, h⟩ := bind_eq_some.1 h
    obtain ⟨rfl, -⟩ := pure_eq_some.1 h
    exact isProper_of_day hday
  | false =>
    obtain ⟨rfl, -⟩ := pure_eq_some.1 h
    exact isProper_of_day hday

/-- Daylight saving time that is read begins and ends on days that a rule may have. -/
theorem isProper_of_daylight {west : Int} {d : DaylightRule}
    (h : daylight west text = some (d, rest)) :
    d.start.day.IsProper ∧ d.finish.day.IsProper := by
  unfold daylight at h
  obtain ⟨_, _, -, h⟩ := bind_eq_some.1 h
  obtain ⟨next, _, -, h⟩ := bind_eq_some.1 h
  -- the dates follow, whether or not an offset is written before them
  have hdates : ∃ (offset : Int) (text : List Char), (do
      expect ','
      let start ← date
      expect ','
      let finish ← date
      return ⟨-offset, start, finish⟩ : Reader DaylightRule) text = some (d, rest) := by
    split at h
    · obtain ⟨offset, text, -, h⟩ := bind_eq_some.1 h
      exact ⟨offset, text, h⟩
    · obtain ⟨offset, text, -, h⟩ := bind_eq_some.1 h
      exact ⟨offset, text, h⟩
  obtain ⟨offset, text, h⟩ := hdates
  obtain ⟨_, _, -, h⟩ := bind_eq_some.1 h
  obtain ⟨start, _, hstart, h⟩ := bind_eq_some.1 h
  obtain ⟨_, _, -, h⟩ := bind_eq_some.1 h
  obtain ⟨finish, _, hfinish, h⟩ := bind_eq_some.1 h
  obtain ⟨rfl, -⟩ := pure_eq_some.1 h
  exact ⟨isProper_of_date hstart, isProper_of_date hfinish⟩

/-- The days of a rule that is read are days that a rule may have. -/
theorem isProper_of_rule {r : ZoneRule} (h : rule text = some (r, rest)) {d : DaylightRule}
    (hd : r.daylight = some d) : d.start.day.IsProper ∧ d.finish.day.IsProper := by
  unfold rule at h
  obtain ⟨_, _, -, h⟩ := bind_eq_some.1 h
  obtain ⟨west, _, -, h⟩ := bind_eq_some.1 h
  obtain ⟨next, _, -, h⟩ := bind_eq_some.1 h
  split at h
  · obtain ⟨read, _, hread, h⟩ := bind_eq_some.1 h
    obtain ⟨rfl, -⟩ := pure_eq_some.1 h
    cases hd
    exact isProper_of_daylight hread
  · obtain ⟨rfl, -⟩ := pure_eq_some.1 h
    cases hd

end RuleReader

end CivilTime
