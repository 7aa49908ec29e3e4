import CivilTime.Pattern.Locale
import CivilTime.Zone.Basic

/-!
# Pattern requests

Formatting by patterns is the work of an engine that is supplied from outside. A request tells it
the pattern, the locale and the zone, which are checked beforehand.
-/

set_option autoImplicit false

namespace CivilTime.Pattern

/-- A pattern with the locale and the zone it is applied in, or those of the engine. -/
structure PatternRequest where
  pattern : String
  locale : Option Locale
  zone : Option Zone
deriving DecidableEq, Repr

/-- The zone of a text: `UTC` or `Z`, an offset with its sign, or a name. -/
def readZone (source : ZoneSource) (text : String) : Except Error Zone :=
  if text = "UTC" ∨ text = "Z" then .ok .utc
  else
    match text.toList with
    | '+' :: _ => Zone.ofDesignator text.toList
    | '-' :: _ => Zone.ofDesignator text.toList
    | _ => Zone.ofName source text

/-- The request of a pattern, a locale and a zone, as far as they are given. What cannot be used is
reported with all three. -/
def PatternRequest.ofTexts (source : ZoneSource) (pattern : String) (locale zone : Option String) :
    Except Error PatternRequest :=
  let rejected : Error := .rejectedRequest pattern locale zone
  match locale.mapM Locale.read? with
  | none => .error rejected
  | some locale =>
    match zone.mapM (readZone source) with
    | .error _ => .error rejected
    | .ok zone => .ok ⟨pattern, locale, zone⟩

/-- An engine for patterns. Instants are in milliseconds. -/
structure Engine where
  format : Int → PatternRequest → Except Error String
  parse : String → PatternRequest → Except Error Int

namespace Engine

/-- The text of an instant. -/
def formatInstant (engine : Engine) (instant : Int) (request : PatternRequest) :
    Except Error String :=
  engine.format instant request

/-- The instant of a text. Whatever the engine reports, a text that it refuses is malformed. -/
def parseInstant (engine : Engine) (text : String) (request : PatternRequest) :
    Except Error Int :=
  match engine.parse text request with
  | .ok instant => .ok instant
  | .error _ => .error (.malformed text.toList)

end Engine

end CivilTime.Pattern
