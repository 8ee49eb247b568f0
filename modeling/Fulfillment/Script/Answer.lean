import Fulfillment.Json.Basic
import Fulfillment.Model.Fault

/-!
# Answers

Every scripted operation answers with a JSON object. A fault is written as its kind and its
message: `{"error": <kind>, "message": <text>}`, where the kind is the snake-case word of the
fault's first class, or `other` for a fault with no class. Faults of the script itself use the
kinds `bad_input` (an unknown operation or a malformed line), `decode` (a value that does not read
as the model asks) and `config`.
-/

namespace Fulfillment.Script

/-- The word for the kind of a fault. -/
def kindWord : Option FaultClass → String
  | some .validation => "validation"
  | some .notFound => "not_found"
  | some .invalidTransition => "invalid_transition"
  | some .concurrentUpdate => "concurrent_update"
  | some .alreadyExists => "already_exists"
  | some .serviceUnavailable => "service_unavailable"
  | some .internalProcessing => "internal_processing"
  | none => "other"

/-- The members that report a problem of a given kind. -/
def problemFields (kind message : String) : List (String × Json) :=
  [("error", .str kind), ("message", .str message)]

/-- The members that report a fault. -/
def faultFields (f : Fault) : List (String × Json) :=
  problemFields (kindWord f.kind) f.message

/-- A fault as an answer. -/
def faultAnswer (f : Fault) : Json := .obj (faultFields f)

/-- A problem of the script itself as an answer. -/
def problem (kind message : String) : Json := .obj (problemFields kind message)

/-- An answer that says the line asks for something the script does not know. -/
def badInput (message : String) : Json := problem "bad_input" message

/-- An answer that says a value does not read as its model. -/
def decodeProblem (message : String) : Json := problem "decode" message

/-- The answer `{"ok": true}`. -/
def okAnswer : Json := .obj [("ok", .bool true)]

/-- The answer to a scenario: the answers of its steps, or `null` when it has none. -/
def stepsAnswer (answers : List Json) : Json :=
  .obj [("steps", if answers.isEmpty then .null else .arr answers)]

end Fulfillment.Script
