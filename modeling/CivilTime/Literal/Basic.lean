import CivilTime.Date.Basic
import CivilTime.Error

/-!
# Literals

A literal is a date, a time, or a date with a time, the last with or without an offset. Which of
the four a text is to be read as is said by the kind.
-/

set_option autoImplicit false

namespace CivilTime

/-- The value of a literal. -/
inductive Literal where
  | date (date : Date)
  /-- Nanoseconds of the day. -/
  | time (nanos : Int)
  | timestamp (date : Date) (nanos : Int)
  /-- The offset is in minutes east of UTC. -/
  | timestampWithOffset (date : Date) (nanos offsetMinutes : Int)
deriving DecidableEq, Repr

/-- What a text is to be read as. -/
inductive LiteralKind where
  | date
  | time
  | timestamp
  | timestampWithTimeZone
deriving DecidableEq, Repr

namespace LiteralKind

/-- All kinds. -/
def all : List LiteralKind := [.date, .time, .timestamp, .timestampWithTimeZone]

/-- The name of a kind. -/
def name : LiteralKind → String
  | .date => "DATE"
  | .time => "TIME"
  | .timestamp => "TIMESTAMP"
  | .timestampWithTimeZone => "TIMESTAMP WITH TIME ZONE"

/-- The kind of a name. -/
def ofName (name : String) : Except NameError LiteralKind :=
  match all.find? fun kind => kind.name == name with
  | some kind => .ok kind
  | none => .error .literalKind

end LiteralKind

/-- The kind that a literal is of. -/
def Literal.kind : Literal → LiteralKind
  | .date _ => .date
  | .time _ => .time
  | .timestamp _ _ => .timestamp
  | .timestampWithOffset _ _ _ => .timestampWithTimeZone

/-- What a dialect accepts beyond the standard forms. -/
structure Dialect where
  /-- A dash may stand between the date and the time of a timestamp. -/
  dashDateTimeSeparator : Bool
deriving DecidableEq, Repr

/-- Only the standard forms. -/
def Dialect.standard : Dialect := ⟨false⟩

end CivilTime
