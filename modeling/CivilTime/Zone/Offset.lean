import CivilTime.Error
import CivilTime.Text.Decimal
import CivilTime.Text.LengthHint

/-!
# Fixed offsets

An offset is a whole number of minutes east of UTC, less than a day in either direction. It has
a canonical text, `±HH:MM`, and a short one, `±HH[:MM]`, and is read from five forms.
-/

set_option autoImplicit false

namespace CivilTime

open CivilTime.Text

/-- Minutes east of UTC. -/
structure UtcOffset where
  minutes : Int
  /-- An offset is less than a day. -/
  minutes_range : -1440 < minutes ∧ minutes < 1440
deriving DecidableEq, Repr

/-- The sign in front of a number of minutes. -/
def signOfMinutes (minutes : Int) : Char := if minutes < 0 then '-' else '+'

/-- The short text of a number of minutes, without minutes of the hour if there are none. -/
def writeOffsetMinutes (minutes : Int) : List Char :=
  let rest := if minutes % 60 = 0 then [] else ':' :: padded 2 (minutes.natAbs % 60)
  signOfMinutes minutes :: padded 2 (minutes.natAbs / 60) ++ rest

/-- The length of the short text, for hours of two digits. -/
def offsetMinutesLengthHint (minutes : Int) : LengthHint :=
  if minutes % 60 = 0 then .exact 3 else .exact 6

namespace UtcOffset

/-- No offset. -/
def utc : UtcOffset := ⟨0, by decide⟩

/-- The offset of so many minutes. -/
def ofMinutes (minutes : Int) : Except Error UtcOffset :=
  if h : -1440 < minutes ∧ minutes < 1440 then .ok ⟨minutes, h⟩
  else .error (.offsetOutOfRange minutes)

/-- Seconds east of UTC. -/
def seconds (offset : UtcOffset) : Int := offset.minutes * 60

/-- The canonical text. -/
def write (offset : UtcOffset) : List Char :=
  signOfMinutes offset.minutes :: padded 2 (offset.minutes.natAbs / 60) ++
    ':' :: padded 2 (offset.minutes.natAbs % 60)

/-- The canonical text has six characters. -/
def lengthHint : LengthHint := .exact 6

/-- The hours and minutes of the text after the sign. -/
def readHoursMinutes? : List Char → Option (Nat × Nat)
  | [h] => (readNat? [h]).map fun hours => (hours, 0)
  | [h₁, h₂] => (readNat? [h₁, h₂]).map fun hours => (hours, 0)
  | [h, ':', m₁, m₂] => both [h] [m₁, m₂]
  | [h₁, h₂, m₁, m₂] => both [h₁, h₂] [m₁, m₂]
  | [h₁, h₂, ':', m₁, m₂] => both [h₁, h₂] [m₁, m₂]
  | _ => none
where
  both (hours minutes : List Char) : Option (Nat × Nat) :=
    match readNat? hours, readNat? minutes with
    | some hours, some minutes => some (hours, minutes)
    | _, _ => none

/-- The offset of hours and minutes of a day with a sign. -/
def ofHoursMinutes? (negative : Bool) (hours minutes : Nat) : Option UtcOffset :=
  if h : hours ≤ 23 ∧ minutes ≤ 59 then
    some ⟨if negative then -(hours * 60 + minutes : Nat) else (hours * 60 + minutes : Nat), by
      split <;> omega⟩
  else none

/-- The offset of a text of one of the forms `±H`, `±HH`, `±H:MM`, `±HH:MM` and `±HHMM`. -/
def read? : List Char → Option UtcOffset
  | '+' :: text => (readHoursMinutes? text).bind fun (h, m) => ofHoursMinutes? false h m
  | '-' :: text => (readHoursMinutes? text).bind fun (h, m) => ofHoursMinutes? true h m
  | _ => none

/-- The offset of a text, or what is said about a text of another form. -/
def read (text : List Char) : Except NameError UtcOffset :=
  match read? text with
  | some offset => .ok offset
  | none => .error .utcOffset

end UtcOffset

end CivilTime
