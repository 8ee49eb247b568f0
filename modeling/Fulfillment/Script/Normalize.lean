import Fulfillment.Json.Basic
import Fulfillment.Script.Answer

/-!
# Stable answers

Some values in an answer depend on the wall clock or on chance. `stabilize` replaces them in the
models, settings, notifications and JSON HTTP bodies of an answer, the values under the members
named in `modelKeys`, so that two runs of the same script answer alike; the rest of an answer,
such as a fault's message or an HTTP body in plain text, stays as it is. In a model:

* the value of a `timestamp`, `created_at`, `updated_at` or `processed_at` member becomes
  `<time>` unless it is the start of year 1;
* each distinct `saga_id` becomes `saga#N`, numbered by first appearance;
* `opened_at` is kept, since it comes from the scripted clock;
* in every other text, a transaction id `TXN-` followed by eight uppercase hexadecimal digits
  becomes `TXN-????????`, and an embedded RFC 3339 timestamp becomes `<time>`.

A moment outside the years 0 to 9999 has no four-digit year and cannot be written at all. Each
member named in `modelKeys` is written on its own, so one that holds such a moment is answered by
`unwritableComplaint` in its place; such a moment anywhere else, as in a breaker's snapshot,
leaves the whole answer that complaint.
-/

namespace Fulfillment.Script

/-- The text of the start of year 1. -/
def zeroTimeText : String := "0001-01-01T00:00:00Z"

/-- Members whose text is a moment of the wall clock. -/
def momentKeys : List String := ["timestamp", "created_at", "updated_at", "processed_at"]

/-- Whether a character is an uppercase hexadecimal digit. -/
def isUpperHex (c : Char) : Bool := c.isDigit || ('A' ≤ c && c ≤ 'F')

/-- The length of a transaction id at the head of the input, if one starts there. -/
def txnLength (cs : List Char) : Option Nat :=
  match cs with
  | 'T' :: 'X' :: 'N' :: '-' :: rest =>
    if (rest.take 8).length = 8 ∧ (rest.take 8).all isUpperHex then some 12 else none
  | _ => none

/-- Whether the head of the input matches a pattern of digits (`d`) and fixed characters. -/
def matchesShape : List Char → List Char → Bool
  | [], _ => true
  | _ :: _, [] => false
  | p :: ps, c :: cs => (if p = 'd' then c.isDigit else c = p) && matchesShape ps cs

/-- The length of an RFC 3339 timestamp at the head of the input, if one starts there. -/
def timestampLength (cs : List Char) : Option Nat :=
  if matchesShape "dddd-dd-ddTdd:dd:dd".toList cs then
    let rest := cs.drop 19
    let fracLen :=
      match rest with
      | '.' :: more =>
        let ds := more.takeWhile Char.isDigit
        if ds.isEmpty then 0 else ds.length + 1
      | _ => 0
    let after := rest.drop fracLen
    match after with
    | 'Z' :: _ => some (19 + fracLen + 1)
    | s :: more =>
      if (s = '+' ∨ s = '-') ∧ matchesShape "dd:dd".toList more then some (19 + fracLen + 6)
      else none
    | [] => none
  else none

/-- Masks transaction ids and timestamps inside a text. -/
def maskText (cs : List Char) : List Char :=
  let rec go : Nat → List Char → List Char
    | 0, rest => rest
    | _ + 1, [] => []
    | fuel + 1, c :: rest =>
      match txnLength (c :: rest) with
      | some n => "TXN-????????".toList ++ go fuel ((c :: rest).drop n)
      | none =>
        match timestampLength (c :: rest) with
        | some n => "<time>".toList ++ go fuel ((c :: rest).drop n)
        | none => c :: go fuel rest
  go (cs.length + 1) cs

/-- The stable name of a saga id, numbering new ids as they appear. -/
def sagaName (seen : List String) (id : String) : String × List String :=
  match seen.idxOf? id with
  | some n => ("saga#" ++ toString (n + 1), seen)
  | none => ("saga#" ++ toString (seen.length + 1), seen ++ [id])

mutual

/-- Replaces the unstable parts of a value, threading the saga ids seen so far. -/
def stabilizeWith : List String → Json → Json × List String
  | seen, .string s _ => (.str (String.ofList (maskText s.toList)), seen)
  | seen, .array items _ =>
    let (items', seen') := stabilizeAll seen items
    (.arr items', seen')
  | seen, .object ms _ =>
    let (ms', seen') := stabilizeMembers seen ms
    (.obj ms', seen')
  | seen, j => (j, seen)

/-- Replaces the unstable parts of each value of a list. -/
def stabilizeAll : List String → List Json → List Json × List String
  | seen, [] => ([], seen)
  | seen, j :: js =>
    let (j', seen') := stabilizeWith seen j
    let (js', seen'') := stabilizeAll seen' js
    (j' :: js', seen'')

/-- Replaces the unstable parts of each member of an object. -/
def stabilizeMembers : List String → List (String × Json) → List (String × Json) × List String
  | seen, [] => ([], seen)
  | seen, (k, v) :: ms =>
    let (v', seen') : Json × List String :=
      match v with
      | .string s _ =>
        if momentKeys.contains k then (.str (if s = zeroTimeText then s else "<time>"), seen)
        else if k = "saga_id" then
          let (name, seen') := sagaName seen s
          (.str name, seen')
        else if k = "opened_at" then (.str s, seen)
        else stabilizeWith seen v
      | _ => stabilizeWith seen v
    let (ms', seen'') := stabilizeMembers seen' ms
    ((k, v') :: ms', seen'')

end

/-- Whether a moment's text starts with a four-digit year, the only years a moment can be
written with. -/
def momentWritable (s : String) : Bool :=
  match s.toList with
  | a :: b :: c :: d :: '-' :: _ => a.isDigit && b.isDigit && c.isDigit && d.isDigit
  | _ => false

/-- Model fields that hold a moment. -/
def momentFields : List String := ["opened_at", "processed_at", "created_at", "updated_at"]

mutual

/-- Whether a value holds a model field with a moment that cannot be written, not looking into
the members named in `skip`. -/
def holdsUnwritable (skip : List String) : Json → Bool
  | .array items _ => anyUnwritable skip items
  | .object ms _ => anyUnwritableMember skip ms
  | _ => false

/-- Whether a value of a list holds an unwritable moment. -/
def anyUnwritable (skip : List String) : List Json → Bool
  | [] => false
  | j :: js => holdsUnwritable skip j || anyUnwritable skip js

/-- Whether a member of an object holds an unwritable moment. -/
def anyUnwritableMember (skip : List String) : List (String × Json) → Bool
  | [] => false
  | (k, v) :: ms =>
    let here : Bool :=
      if skip.contains k then false
      else match v with
        | .string s _ => momentFields.contains k && !momentWritable s
        | _ => holdsUnwritable skip v
    here || anyUnwritableMember skip ms

end

/-- Whether a value holds a moment that cannot be written anywhere in it. -/
def unwritable (j : Json) : Bool := holdsUnwritable [] j

/-- The complaint a value is written as when it holds a moment that cannot be written. -/
def unwritableComplaint : Json :=
  problem "marshal"
    "json: error calling MarshalJSON for type *time.Time: year outside of range [0,9999]"

/-- The members of an answer that are written on their own: models, settings, notifications and
HTTP bodies. -/
def modelKeys : List String :=
  ["order", "orders", "payment", "payments", "customer", "customers", "details", "entries",
   "clone_mutated", "value", "item", "body", "config", "notifications"]

/-- A member written on its own: the complaint if it holds an unwritable moment, the text itself
if it is an HTTP body in plain text, and otherwise the value made stable. -/
def stabilizeModel (seen : List String) (k : String) (v : Json) : Json × List String :=
  if unwritable v then (unwritableComplaint, seen)
  else match k, v with
    | "body", .string s _ => (.str s, seen)
    | _, _ => stabilizeWith seen v

mutual

/-- Writes the models inside an answer, threading the saga ids seen so far. -/
def stabilizeAnswer : List String → Json → Json × List String
  | seen, .array items _ =>
    let (items', seen') := stabilizeAnswers seen items
    (.arr items', seen')
  | seen, .object ms _ =>
    let (ms', seen') := stabilizeAnswerMembers seen ms
    (.obj ms', seen')
  | seen, j => (j, seen)

/-- Writes the models inside each answer of a list. -/
def stabilizeAnswers : List String → List Json → List Json × List String
  | seen, [] => ([], seen)
  | seen, j :: js =>
    let (j', seen') := stabilizeAnswer seen j
    let (js', seen'') := stabilizeAnswers seen' js
    (j' :: js', seen'')

/-- Writes the models among the members of an answer. -/
def stabilizeAnswerMembers : List String → List (String × Json) →
    List (String × Json) × List String
  | seen, [] => ([], seen)
  | seen, (k, v) :: ms =>
    let (v', seen') :=
      if modelKeys.contains k then stabilizeModel seen k v else stabilizeAnswer seen v
    let (ms', seen'') := stabilizeAnswerMembers seen' ms
    ((k, v') :: ms', seen'')

end

/-- An answer as it is written. Its models are written one by one and made stable; a moment that
cannot be written anywhere else in it leaves the whole answer a complaint about it. -/
def stabilize (j : Json) : Json :=
  if holdsUnwritable modelKeys j then unwritableComplaint else (stabilizeAnswer [] j).1

end Fulfillment.Script
