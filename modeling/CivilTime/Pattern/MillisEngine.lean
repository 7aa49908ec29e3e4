import CivilTime.Pattern.Request
import CivilTime.Text.Decimal

/-!
# An engine for milliseconds

The engine knows the pattern `S`, the number of milliseconds after 1970-01-01 00:00. In a zone
with a fixed offset the milliseconds are local.
-/

set_option autoImplicit false

namespace CivilTime.Pattern

/-- The milliseconds that a request is ahead of UTC. -/
def PatternRequest.offsetMillis (request : PatternRequest) : Int :=
  match request.zone with
  | some (.fixed offset) => offset.seconds * 1000
  | _ => 0

/-- The engine that knows the pattern `S`. Reading does not look at the pattern. -/
def Engine.millis : Engine where
  format instant request :=
    if request.pattern = "S" then
      .ok (String.ofList (Text.writeInt (instant + request.offsetMillis)))
    else .error (.general "unsupported pattern")
  parse text request :=
    match Text.readInt64? text.toList with
    | some millis => .ok (millis - request.offsetMillis)
    | none => .error (.general "not a number")

end CivilTime.Pattern
