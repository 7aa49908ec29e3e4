import CivilTime.Text.Blank

/-!
# Errors

An operation that fails answers with a kind and a message. Collaborators, such as sources of zone
data, report failures of their own in the same form. The wording of every failure that this
library itself reports is in this module.
-/

set_option autoImplicit false

namespace CivilTime

/-- A field of a local date and time that a strict computation may refuse. -/
inductive CalendarField where
  | month
  | dayOfMonth
  | hourOfDay
  | minute
  | second
  | millisecond
deriving DecidableEq, Repr

/-- The name under which a refused field is reported. -/
def CalendarField.name : CalendarField → String
  | .month => "MONTH"
  | .dayOfMonth => "DAY_OF_MONTH"
  | .hourOfDay => "HOUR_OF_DAY"
  | .minute => "MINUTE"
  | .second => "SECOND"
  | .millisecond => "MILLISECOND"

/-- What went wrong. -/
inductive ErrorKind where
  /-- A collaborator failed. -/
  | general
  /-- A literal has not the form it needs. -/
  | malformed
  /-- Year, month and day name no day of the calendar. -/
  | invalidDate
  /-- A zone could not be resolved, or resolved to another zone than the one written. -/
  | timeZone
  /-- A strict computation refused a field. -/
  | fieldOverflow (field : CalendarField)
  /-- An invariant of the library is broken. -/
  | assertion
deriving DecidableEq, Repr

/-- The name under which a kind of error is reported. -/
def ErrorKind.name : ErrorKind → String
  | .general => "Error"
  | .malformed => "SyntaxError"
  | .invalidDate => "InvalidDateError"
  | .timeZone => "TimeZoneError"
  | .fieldOverflow _ => "FieldOverflowError"
  | .assertion => "ImplementationError"

/-- A failure: its kind and a message, which may be empty. -/
structure Error where
  kind : ErrorKind
  message : String
deriving DecidableEq, Repr

namespace Error

/-- The field that was refused, if that is what went wrong. -/
def overflowField? (e : Error) : Option CalendarField :=
  match e.kind with
  | .fieldOverflow field => some field
  | _ => none

/-- The kind, the refused field in brackets, and the message without outer blanks, if any is
left. -/
def display (e : Error) : String :=
  let head :=
    match e.kind with
    | .fieldOverflow field => s!"{e.kind.name} [{field.name}]"
    | kind => kind.name
  match Text.trim e.message.toList with
  | [] => head
  | message => head ++ ": " ++ String.ofList message

/-- A failure of a collaborator. -/
def general (message : String) : Error := ⟨.general, message⟩

/-- A literal that has not the form it needs; the message is the text. -/
def malformed (text : List Char) : Error := ⟨.malformed, String.ofList text⟩

/-- Year, month and day name no day. -/
def invalidDate (year month day : Int) : Error :=
  ⟨.invalidDate, s!"{year}-{month}-{day} is not a valid calendar date."⟩

/-- Week rules with a first day or a number of days that no week has. -/
def invalidWeekRules (firstDay minimalDays : Int) : Error :=
  general s!"Invalid week rules: first day {firstDay}, minimal days {minimalDays}."

/-- An offset of a day or more. -/
def offsetOutOfRange (minutes : Int) : Error :=
  ⟨.timeZone, s!"Offset of {minutes} minutes is out of range."⟩

/-- A text that is not the beginning of the canonical form of an offset. -/
def unresolvedOffset (designator : List Char) : Error := ⟨.timeZone, String.ofList designator⟩

/-- A zone name that is not the beginning of the canonical name it stands for. -/
def unlikeCanonicalName (name canonical : String) : Error :=
  ⟨.timeZone, s!"{name} ({canonical}?)"⟩

/-- A source without any zone was asked for one. -/
def noZoneData (name : String) : Error :=
  ⟨.timeZone, s!"No time zone data available for {name}."⟩

/-- A collection of zones has none of this name. -/
def unknownZone (name : String) : Error :=
  ⟨.timeZone, s!"Unknown time zone identifier: {name}."⟩

/-- A name that would lead out of the directory of zone files. -/
def notAZoneIdentifier (name : String) : Error :=
  ⟨.timeZone, s!"{name} is not a zone identifier."⟩

/-- Compiled zone data that breaks its format. -/
def illformedZoneFile : Error := general "Illformed TZif data."

/-- Compiled zone data of the first version, which has no second block. -/
def obsoleteZoneFile : Error := general "Only TZif v2+ is supported."

/-- A field outside its range in the calendar, with all fields as the message. -/
def fieldOutOfRange (field : CalendarField)
    (year month day hour minute second millisecond : Int) : Error :=
  ⟨.fieldOverflow field, s!"{year}-{month}-{day} {hour}:{minute}:{second}.{millisecond}"⟩

/-- A local time that a change of offset skipped. -/
def skippedLocalTime : Error :=
  ⟨.fieldOverflow .hourOfDay, "Local time does not exist in this time zone."⟩

/-- An instant whose milliseconds do not fit their field. -/
def instantOutOfRange : Error := general "Instant is out of range."

/-- A pattern request with an unusable locale or zone; an absent one is written as nothing. -/
def rejectedRequest (pattern : String) (locale zone : Option String) : Error :=
  let locale := locale.getD ""
  let zone := zone.getD ""
  ⟨.malformed, s!"{pattern}/{locale}/{zone}"⟩

/-- A broken invariant. -/
def assertion : Error := ⟨.assertion, "Implementation error: an assertion failed."⟩

end Error

/-- A word that names nothing in a closed list of names. -/
inductive NameError where
  | dateField
  | literalKind
  | utcOffset
deriving DecidableEq, Repr

/-- What is said about such a word. -/
def NameError.message : NameError → String
  | .dateField => "provided string was not a valid DateField"
  | .literalKind => "provided string was not a valid LiteralKind"
  | .utcOffset => "provided string was not a valid UTC offset"

end CivilTime
