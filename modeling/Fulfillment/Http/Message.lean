import Fulfillment.Clock.Instant
import Fulfillment.Http.Uri
import Fulfillment.Json.Reader
import Fulfillment.Model.Fault
import Fulfillment.Number.Integer

/-!
# Requests and responses

A `Request` is what a service receives: a method, a request URI, headers and a body. The body
is a `Payload`: the text a handler reads, how the stream ends after it, and the length the
request declares. A `Response` is a status and a body, which is empty, a JSON value, or plain
text.

A fault is answered with the status and error code of its first class, in the order
validation (400 `VALIDATION_ERROR`), not found (404 `NOT_FOUND`), refused stage move (409
`INVALID_STATE_TRANSITION`), stale version (409 `CONCURRENT_UPDATE`), duplicate (409
`ALREADY_EXISTS`), unavailable (503 `SERVICE_UNAVAILABLE`); any other fault is a 500
`INTERNAL_ERROR`. The body holds the code, the fault's message, the status and the moment.

Record ids in paths are positive decimal 64-bit numbers with an optional sign; any other text
is refused as `invalid <parameter> "<text>"`.
-/

namespace Fulfillment.Http

/-- How a request body's stream ends once its bytes are read: cleanly, or with a read fault. -/
inductive BodyEnd where
  | clean
  | fault (message : String)
  deriving Inhabited, DecidableEq

/-- A request body as a handler reads it: the text of its bytes, how the stream ends after them,
and the length the request declares, `-1` when it declares none. -/
structure Payload where
  text : String
  ending : BodyEnd
  declared : Int
  deriving Inhabited

/-- A body of a whole text that declares its length in bytes. -/
def Payload.ofText (s : String) : Payload := ⟨s, .clean, s.utf8ByteSize⟩

/-- The first JSON value of a body as a streaming decoder reads it, or the complaint. A body
whose bytes hold no value reads as `EOF`, and one whose bytes end inside a value as
`unexpected EOF`, unless the stream ends with a fault, which is then the complaint. A value that
is not an object or an array and ends the bytes might go on, so it waits for the end of the stream
too. -/
def Payload.firstValue (p : Payload) : Except String Json :=
  match Json.readFirst p.text, p.ending with
  | .ok (j, _), .clean => .ok j
  | .ok (j, rest), .fault m =>
    match j with
    | .array _ _ | .object _ _ => .ok j
    | _ => if rest.isEmpty then .error m else .ok j
  | .error .empty, .fault m => .error m
  | .error .truncated, .fault m => .error m
  | .error f, _ => .error f.message

/-- A request as a service receives it. -/
structure Request where
  method : String
  target : RequestUri
  headers : List (String × String)
  body : Payload
  deriving Inhabited

/-- Whether two header names are equal up to ASCII case. -/
def sameHeader (a b : String) : Bool :=
  a.toList.map Char.toLower == b.toList.map Char.toLower

/-- The value of a header; names are compared up to ASCII case, the first header of a name
counts, and a missing header reads as empty. -/
def Request.header (r : Request) (name : String) : String :=
  match r.headers.find? fun h => sameHeader h.1 name with
  | some h => h.2
  | none => ""

/-- Headers with one set to a value, in place of every header of its name. -/
def setHeader (headers : List (String × String)) (name value : String) :
    List (String × String) :=
  headers.filter (fun h => !sameHeader h.1 name) ++ [(name, value)]

/-- What a response carries. -/
inductive Body where
  | none
  | json (j : Json)
  | text (s : String)
  deriving Inhabited

/-- The text of a body: empty, the JSON written compactly, or the text itself. -/
def Body.content : Body → String
  | .none => ""
  | .json j => j.compact
  | .text s => s

/-- A status and a body. -/
structure Response where
  status : Nat
  body : Body
  deriving Inhabited

namespace Response

/-- A response with a JSON body. -/
def ofJson (status : Nat) (j : Json) : Response := ⟨status, .json j⟩

/-- A 200 response with a JSON body. -/
def ok (j : Json) : Response := ofJson 200 j

/-- A 201 response with a JSON body. -/
def created (j : Json) : Response := ofJson 201 j

end Response

/-- The status and error code a fault is answered with. -/
def classify (f : Fault) : Nat × String :=
  match f.kind with
  | some .validation => (400, "VALIDATION_ERROR")
  | some .notFound => (404, "NOT_FOUND")
  | some .invalidTransition => (409, "INVALID_STATE_TRANSITION")
  | some .concurrentUpdate => (409, "CONCURRENT_UPDATE")
  | some .alreadyExists => (409, "ALREADY_EXISTS")
  | some .serviceUnavailable => (503, "SERVICE_UNAVAILABLE")
  | _ => (500, "INTERNAL_ERROR")

/-- The answer to a fault at `now`. -/
def failure (f : Fault) (now : Instant) : Response :=
  let (status, code) := classify f
  .ofJson status (.obj [("error_code", .str code), ("message", .str f.message),
    ("status", Json.int status), ("timestamp", .str now.toText)])

/-- The answer of a service's health check at `now`. -/
def health (service : String) (now : Instant) : Response :=
  .ok (.obj [("service", .str service), ("status", .str "healthy"),
    ("timestamp", .str now.toText)])

/-- The record id a path parameter names: a positive 64-bit decimal integer, or the complaint
that shows the parameter quoted, stray bytes and all. -/
def pathId (name : String) (raw : PathText) : Except Fault Int :=
  let refusal : Except Fault Int := .error (.invalid ("invalid " ++ name ++ " " ++ raw.quote))
  match raw.text? with
  | some s =>
    match Number.readInt s 10 64 with
    | .value n => if 0 < n then .ok n else refusal
    | _ => refusal
  | none => refusal

end Fulfillment.Http
