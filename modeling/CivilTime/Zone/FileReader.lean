import CivilTime.Zone.History
import CivilTime.Zone.RuleReader

/-!
# Reading compiled zone data

Compiled data consists of a header with counts and a block of tables, for readers that know times
of four bytes only; a second header and a second block with times of eight bytes; and a yearly
rule between two line feeds. All numbers are big endian. Only the second block and the rule are
kept, but the first block has to be well formed too.
-/

set_option autoImplicit false

namespace CivilTime.FileReader

/-- Takes bytes from the front of the data, or fails. -/
abbrev Reader := StateT (List UInt8) Option

/-- Takes one byte. -/
def byte : Reader UInt8
  | b :: data => some (b, data)
  | [] => none

/-- Takes `n` bytes that do not matter. -/
def skip (n : Nat) : Reader Unit := fun data =>
  if n ≤ data.length then some ((), data.drop n) else none

/-- Takes the same thing `n` times. -/
def replicate {α : Type} (n : Nat) (reader : Reader α) : Reader (List α) :=
  match n with
  | 0 => return []
  | n + 1 => do
    let first ← reader
    let rest ← replicate n reader
    return first :: rest

/-- Takes an unsigned number of `n` bytes. -/
def unsigned (n : Nat) : Reader Nat := do
  let bytes ← replicate n byte
  return bytes.foldl (fun value b => value * 256 + b.toNat) 0

/-- Takes a signed number of `n` bytes. -/
def signed (n : Nat) : Reader Int := do
  let value ← unsigned n
  return Int.bmod value (1 <<< (8 * n))

/-- Goes on if the data is as it has to be. -/
def ensure (condition : Bool) : Reader Unit := if condition then pure () else failure

/-- The counts of a header, and the version of the format. -/
structure Header where
  version : UInt8
  utCount : Nat
  standardCount : Nat
  leapCount : Nat
  timeCount : Nat
  typeCount : Nat
  nameBytes : Nat

/-- Takes a header. There is at least one type of local time and one byte of names, and the two
kinds of indicators come with every type or with none. -/
def header : Reader Header := do
  let magic ← replicate 4 byte
  ensure (magic == [0x54, 0x5A, 0x69, 0x66])
  let version ← byte
  ensure (version == 0 || version == 0x32 || version == 0x33)
  skip 15
  let utCount ← unsigned 4
  let standardCount ← unsigned 4
  let leapCount ← unsigned 4
  let timeCount ← unsigned 4
  let typeCount ← unsigned 4
  let nameBytes ← unsigned 4
  ensure (typeCount != 0 && nameBytes != 0)
  ensure (utCount == 0 || utCount == typeCount)
  ensure (standardCount == 0 || standardCount == typeCount)
  return ⟨version, utCount, standardCount, leapCount, timeCount, typeCount, nameBytes⟩

/-- Takes a byte that is zero or one. -/
def flag : Reader Bool := do
  let b ← byte
  ensure (b == 0 || b == 1)
  return b == 1

/-- Takes a type of local time. -/
def localRecord (nameBytes : Nat) : Reader LocalRecord := do
  let offset ← signed 4
  ensure (offset != -2147483648)
  let isDst ← flag
  let nameStart ← byte
  ensure (nameStart.toNat < nameBytes)
  return ⟨offset, isDst⟩

/-- Each number is at least as large as the one before it. -/
def isAscending : List Int → Bool
  | a :: b :: times => a ≤ b && isAscending (b :: times)
  | _ => true

/-- A leap second comes four weeks, less one second, after the one before it at the earliest, and
changes the correction by one. -/
def leapSecondsFollow : List (Int × Int) → Bool
  | (time, correction) :: (nextTime, nextCorrection) :: leaps =>
    time + 2419199 ≤ nextTime && (nextCorrection - correction).natAbs == 1 &&
      leapSecondsFollow ((nextTime, nextCorrection) :: leaps)
  | _ => true

/-- The leap seconds start after the epoch with a correction of one, and follow each other as they
have to. -/
def areLeapSeconds (leaps : List (Int × Int)) : Bool :=
  (leaps.head?.all fun (time, correction) => 0 ≤ time && correction.natAbs == 1) &&
    leapSecondsFollow leaps

/-- Takes a leap second: its time and the correction from then on. -/
def leapSecond (timeBytes : Nat) : Reader (Int × Int) := do
  let time ← signed timeBytes
  let correction ← signed 4
  return (time, correction)

/-- The tables of a block: the instants of the changes, the number of the record that each of them
brings, and the records. -/
structure Tables where
  times : List Int
  types : List Nat
  records : List LocalRecord

/-- Takes a block of tables with times of `timeBytes` bytes. -/
def block (counts : Header) (timeBytes : Nat) : Reader Tables := do
  let times ← replicate counts.timeCount (signed timeBytes)
  ensure (times.all (-576460752303423488 ≤ ·) && isAscending times)
  let types ← replicate counts.timeCount (unsigned 1)
  ensure (types.all (· < counts.typeCount))
  let records ← replicate counts.typeCount (localRecord counts.nameBytes)
  skip counts.nameBytes
  let leaps ← replicate counts.leapCount (leapSecond timeBytes)
  ensure (areLeapSeconds leaps)
  let _ ← replicate counts.standardCount flag
  let _ ← replicate counts.utCount flag
  return ⟨times, types, records⟩

/-- The yearly rule between two line feeds at the front of the data. It is written in ASCII, but for
names in angle brackets. -/
def footer (data : List UInt8) : Option ZoneRule :=
  let read : RuleReader.Reader ZoneRule := do
    RuleReader.expect '\n'
    let rule ← RuleReader.rule
    RuleReader.expect '\n'
    return rule
  (read (Text.decodeUtf8 data)).map Prod.fst

/-- Takes the first header with its block, and answers whether a second one follows. -/
def firstBlock : Reader Bool := do
  let counts ← header
  let _ ← block counts 4
  return counts.version != 0

/-- Takes the second header with its block. -/
def secondBlock : Reader Tables := do
  let counts ← header
  block counts 8

/-- The history of tables, which have one record at least. -/
def ofTables (tables : Tables) (rule : Option ZoneRule) : Except Error ZoneHistory :=
  if tables.records = [] then .error .assertion
  else .ok ⟨tables.times.toArray, tables.types.toArray, tables.records.toArray, rule⟩

/-- The history that compiled zone data holds. -/
def read (data : List UInt8) : Except Error ZoneHistory :=
  match firstBlock data with
  | none => .error .illformedZoneFile
  | some (false, _) => .error .obsoleteZoneFile
  | some (true, rest) =>
    match secondBlock rest with
    | none => .error .illformedZoneFile
    | some (tables, rest) =>
      match footer rest with
      | none => .error .illformedZoneFile
      | some rule => ofTables tables (some rule)

end CivilTime.FileReader
