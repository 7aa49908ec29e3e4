import CivilTime.Text.Decimal
import CivilTime.Text.Utf8
import CivilTime.Zone.Rule

/-!
# Reading yearly rules

A rule is written as the name and the offset of standard time, and then, if there is daylight
saving time, its name, its offset if it is not one hour ahead, and the dates of its start and its
end: `name offset [name [offset] ,date ,date]`. Offsets are written west of UTC. The next
character always tells what follows, so a reader never goes back.
-/

set_option autoImplicit false

namespace CivilTime.RuleReader

open CivilTime.Text

/-- Takes characters from the front of a text, or fails. -/
abbrev Reader := StateT (List Char) Option

/-- The next character, which stays in the text. -/
def peek : Reader (Option Char) := fun text => some (text.head?, text)

/-- Takes the next character, which has to be `c`. -/
def expect (c : Char) : Reader Unit
  | d :: text => if d = c then some ((), text) else none
  | [] => none

/-- Takes the next character if it is `c`, and tells whether it was. -/
def accept (c : Char) : Reader Bool
  | d :: text => if d = c then some (true, text) else some (false, d :: text)
  | [] => some (false, [])

/-- Takes a run of digits whose value lies between the bounds. -/
def number (lower upper : Nat) : Reader Int := fun text =>
  match readNat? (text.takeWhile Char.isDigit) with
  | none => none
  | some n =>
    if lower ≤ n ∧ n ≤ upper then some ((n : Int), text.dropWhile Char.isDigit) else none

/-- The characters that may start a name. -/
def startsName (c : Char) : Bool := c.isAlpha || c == '<'

/-- Takes a name: three letters or more, or a text of three bytes or more in angle brackets that
does not start with a colon. -/
def name : Reader Unit
  | '<' :: text =>
    let body := text.takeWhile (· != '>')
    if 3 ≤ byteCount body ∧ body.head? ≠ some ':' then expect '>' (text.dropWhile (· != '>'))
    else none
  | text =>
    if 3 ≤ (text.takeWhile Char.isAlpha).length then some ((), text.dropWhile Char.isAlpha)
    else none

/-- Takes `:mm` or `:mm:ss`, if a colon follows, as a number of seconds. -/
def minutesAndSeconds : Reader Int := do
  if ← accept ':' then
    let minutes ← number 0 59
    if ← accept ':' then
      let seconds ← number 0 59
      return minutes * 60 + seconds
    return minutes * 60
  return 0

/-- Takes `[+-]h[:mm[:ss]]` as a number of seconds. The hours carry the sign, so it is lost with
zero hours. -/
def signedTime (maxHours : Nat) : Reader Int := do
  let negative ← accept '-'
  unless negative do
    let _ ← accept '+'
  let hours ← number 0 maxHours
  let rest ← minutesAndSeconds
  return if negative ∧ hours ≠ 0 then -(hours * 3600 + rest) else hours * 3600 + rest

/-- Takes an offset west of UTC. -/
def westOffset : Reader Int := signedTime 24

/-- Takes a day of the year. -/
def day : Reader RuleDay := do
  if ← accept 'M' then
    let month ← number 1 12
    expect '.'
    let week ← number 1 5
    expect '.'
    let weekday ← number 0 6
    return .weekdayOfMonth month week weekday
  if ← accept 'J' then
    return .withoutLeapDay (← number 1 365)
  return .withLeapDay (← number 0 365)

/-- Takes a day and a time after a slash, which is two o'clock if it is not written. -/
def date : Reader RuleDate := do
  let day ← day
  if ← accept '/' then
    return ⟨day, ← signedTime 167⟩
  return ⟨day, 7200⟩

/-- Takes what follows the standard offset, which is `west` seconds west of UTC. -/
def daylight (west : Int) : Reader DaylightRule := do
  name
  let offset ← if (← peek) = some ',' then pure (west - 3600) else westOffset
  expect ','
  let start ← date
  expect ','
  let finish ← date
  return ⟨-offset, start, finish⟩

/-- Takes a rule. -/
def rule : Reader ZoneRule := do
  name
  let west ← westOffset
  if (← peek).any startsName then
    return ⟨-west, some (← daylight west)⟩
  return ⟨-west, none⟩

example : (rule "CET-1CEST,M3.5.0,M10.5.0/3\n".toList).map Prod.fst =
    some ⟨3600, some ⟨7200, ⟨.weekdayOfMonth 3 5 0, 7200⟩, ⟨.weekdayOfMonth 10 5 0, 10800⟩⟩⟩ := by
  decide

end CivilTime.RuleReader
