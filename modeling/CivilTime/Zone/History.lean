import CivilTime.Error
import CivilTime.Zone.Rule

/-!
# Zone histories

The history of a zone is kept in tables, as compiled zone data has them: the instants of the
changes in ascending order, for each change the number of the record that it brings, and the
records by their numbers. Before the first change the record number zero is in effect, and after
the last one a yearly rule may take over. Lookups bisect the instants; a lookup that leads out of
the tables is a broken invariant.
-/

set_option autoImplicit false

namespace CivilTime

/-- The tables of a zone, and its rule for the time after them. -/
structure ZoneHistory where
  /-- The instants of the changes, in seconds and in ascending order. -/
  times : Array Int
  /-- The number of the record that each change brings. -/
  types : Array Nat
  records : Array LocalRecord
  /-- What clocks show after the last change. -/
  rule : Option ZoneRule
deriving DecidableEq, Repr

/-- Where an instant stands in a table of instants in ascending order. -/
inductive Place where
  /-- It is the entry number `i`. -/
  | found (i : Nat)
  /-- It is no entry, and would be inserted as number `i`. -/
  | missing (i : Nat)
deriving DecidableEq, Repr

/-- The end of the entries up to an instant, searched between `lo` and `hi`: every entry before
`lo` is one of them, and none from `hi` on is. -/
def bisect (times : Array Int) (instant : Int) (lo hi : Nat) (h : hi ≤ times.size) : Nat :=
  if hlt : lo < hi then
    let mid := (lo + hi) / 2
    if times[mid] ≤ instant then bisect times instant (mid + 1) hi h
    else bisect times instant lo mid (by omega)
  else lo
termination_by hi - lo

/-- The place of an instant. -/
def placeOf (times : Array Int) (instant : Int) : Place :=
  match bisect times instant 0 times.size (Nat.le_refl _) with
  | 0 => .missing 0
  | n + 1 => if times[n]? = some instant then .found n else .missing (n + 1)

namespace ZoneHistory

/-- The record that the change number `i` brings. -/
def recordOfChange (history : ZoneHistory) (i : Nat) : Except Error LocalRecord :=
  match history.types[i]? with
  | none => .error .assertion
  | some type =>
    match history.records[type]? with
    | none => .error .assertion
    | some record => .ok record

/-- The record in effect before the first change. -/
def firstRecord (history : ZoneHistory) : Except Error LocalRecord :=
  match history.records[0]? with
  | none => .error .assertion
  | some record => .ok record

/-- The number of the change in effect at an instant; there is none before the first change. -/
def changeAt? (history : ZoneHistory) (instant : Int) : Option Nat :=
  match placeOf history.times instant with
  | .found i => some i
  | .missing 0 => none
  | .missing (i + 1) => some i

/-- The rule that is in force at an instant, if the table ends before it. -/
def ruleAt? (history : ZoneHistory) (instant : Int) : Option ZoneRule :=
  match history.times.back? with
  | none => history.rule
  | some last => if last < instant then history.rule else none

/-- What clocks show at an instant, in seconds. -/
def recordAt (history : ZoneHistory) (instant : Int) : Except Error LocalRecord :=
  match history.ruleAt? instant with
  | some rule => .ok (rule.recordAt instant)
  | none =>
    match history.changeAt? instant with
    | none => history.firstRecord
    | some i => history.recordOfChange i

/-- The offset of the last standard time among the first `n` changes, or else of the first
record. -/
def lastStandardOffset (history : ZoneHistory) : Nat → Except Error Int
  | 0 => history.firstRecord.map LocalRecord.offset
  | n + 1 =>
    match history.recordOfChange n with
    | .error e => .error e
    | .ok record =>
      if record.isDst then history.lastStandardOffset n else .ok record.offset

/-- The offset, in seconds, of the standard time in effect or last in effect at an instant. -/
def standardOffsetAt (history : ZoneHistory) (instant : Int) : Except Error Int :=
  match history.ruleAt? instant with
  | some rule => .ok rule.standardOffset
  | none =>
    match history.changeAt? instant with
    | none => history.firstRecord.map LocalRecord.offset
    | some i => history.lastStandardOffset (i + 1)

end ZoneHistory

end CivilTime
