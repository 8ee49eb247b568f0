import Fulfillment.Decimal.Text
import Fulfillment.Json.Basic
import Fulfillment.Number.FloatText
import Fulfillment.Number.Integer
import Fulfillment.Text.Bytes

/-!
# Decoding JSON into records

A record is read from a JSON object member by member, in the order the members appear, so a
repeated key overrides what came before. A member names a field when the two names are equal up
to case folding; members that name no field are skipped, and `null` leaves a field as it was.

A member of the wrong kind of JSON is a `Mismatch`: it is noted, the field keeps its value, and
reading goes on; only the first mismatch is reported. It names the record the document is read
into and the way from the top to the value, member names, map keys and array positions joined by
dots; a value whose last step is a member or a key is called a struct field. A whole number
field takes a number only if it is written as a 64-bit integer, and a double field one whose
value lies within the finite doubles. A decimal field reads the member's text with the decimal
rules, and a text it cannot read stops the decoding at once, with the first mismatch noted
before it if there is one, or else its own complaint. It reads the member as written: a string
with its escapes, not its value.

A list is read into the list that is already there: each element into the one at its position,
and positions past the end of a shorter array stay behind as spare elements that a later, longer
array of the same member reads into again. A map takes each key of an object in turn, `null`
setting a key to the empty text.
-/

namespace Fulfillment.Json

/-- A step from a value to one inside it: the member a field is read from, or a position in an
array. -/
inductive PathStep where
  | member (name : String)
  | index (i : Nat)
  deriving Inhabited

/-- How a step is written in a path. -/
def PathStep.text : PathStep → String
  | .member name => name
  | .index i => toString i

/-- Where a value sits: the record the document is read into and the steps from its top. -/
structure Place where
  root : String
  path : List PathStep
  deriving Inhabited

/-- A place one step further in. -/
def Place.child (place : Place) (step : PathStep) : Place :=
  ⟨place.root, place.path ++ [step]⟩

/-- The steps of a place joined by dots. -/
def Place.pathText (place : Place) : String :=
  ".".intercalate (place.path.map PathStep.text)

/-- A member whose JSON kind does not fit the field. -/
structure Mismatch where
  found : String
  place : Place
  expected : String
  deriving Inhabited

/-- The complaint about a mismatch: at the top it names the type alone, in a field the record
and the path, and in an array the path without calling it a field. -/
def Mismatch.message (m : Mismatch) : String :=
  let target := match m.place.path.getLast? with
    | none => "Go value"
    | some (.member _) => "Go struct field " ++ m.place.root ++ "." ++ m.place.pathText
    | some (.index _) => m.place.root ++ "." ++ m.place.pathText
  "json: cannot unmarshal " ++ m.found ++ " into " ++ target ++ " of type " ++ m.expected

/-- Decoding notes the first mismatch and may stop with a complaint. -/
abbrev Decoding := StateT (Option Mismatch) (Except String)

/-- The word for the kind of a JSON value. -/
def kindWord : Json → String
  | .null => "null"
  | .bool _ => "bool"
  | .num _ => "number"
  | .string _ _ => "string"
  | .array _ _ => "array"
  | .object _ _ => "object"

/-- Notes a mismatch unless one was noted before. -/
def noteMismatch (place : Place) (found expected : String) : Decoding Unit :=
  modify fun s => match s with
    | some m => some m
    | none => some ⟨found, place, expected⟩

/-- A whole number field. -/
def readIntField (expected : String) (place : Place) (j : Json) (cur : Int) : Decoding Int :=
  match j with
  | .null => pure cur
  | .num t =>
    match Number.readInt64? t with
    | some n => pure n
    | none => do noteMismatch place ("number " ++ t) expected; pure cur
  | other => do noteMismatch place (kindWord other) expected; pure cur

/-- A whole number field that may be absent. -/
def readOptIntField (place : Place) (j : Json) (cur : Option Int) : Decoding (Option Int) :=
  match j with
  | .null => pure none
  | .num t =>
    match Number.readInt64? t with
    | some n => pure (some n)
    | none => do noteMismatch place ("number " ++ t) "int64"; pure cur
  | other => do noteMismatch place (kindWord other) "int64"; pure cur

/-- A text field. -/
def readTextField (expected : String) (place : Place) (j : Json) (cur : String) :
    Decoding String :=
  match j with
  | .null => pure cur
  | .string s _ => pure s
  | other => do noteMismatch place (kindWord other) expected; pure cur

/-- A text field kept as its UTF-8 bytes. -/
def readBytesField (expected : String) (place : Place) (j : Json) (cur : Bytes) :
    Decoding Bytes :=
  match j with
  | .null => pure cur
  | .string s _ => pure (Bytes.ofText s)
  | other => do noteMismatch place (kindWord other) expected; pure cur

/-- A text field that may be absent; `null` makes it absent. -/
def readOptTextField (place : Place) (j : Json) (cur : Option String) : Decoding (Option String) :=
  match j with
  | .null => pure none
  | .string s _ => pure (some s)
  | other => do noteMismatch place (kindWord other) "string"; pure cur

/-- A flag field. -/
def readBoolField (place : Place) (j : Json) (cur : Bool) : Decoding Bool :=
  match j with
  | .null => pure cur
  | .bool b => pure b
  | other => do noteMismatch place (kindWord other) "bool"; pure cur

/-- A flag field that may be absent; `null` makes it absent. -/
def readOptBoolField (place : Place) (j : Json) (cur : Option Bool) : Decoding (Option Bool) :=
  match j with
  | .null => pure none
  | .bool b => pure (some b)
  | other => do noteMismatch place (kindWord other) "bool"; pure cur

/-- A double field: a number rounded to the nearest double, refused beyond the finite ones. -/
def readDoubleField (place : Place) (j : Json) (cur : Number.Binary64) :
    Decoding Number.Binary64 :=
  match j with
  | .null => pure cur
  | .num t =>
    match Number.readFloat t with
    | .finite x => pure x
    | _ => do noteMismatch place ("number " ++ t) "float64"; pure cur
  | other => do noteMismatch place (kindWord other) "float64"; pure cur

/-- A field that keeps any value as it is; `null` is kept too, as a value. -/
def readRawField (_place : Place) (j : Json) (_cur : Option Json) : Decoding (Option Json) :=
  pure (some j)

/-- A map from texts to texts, read into the map already there: each key of an object in
turn replaces or adds its entry, `null` setting it to the empty text. `null` for the whole map
empties it. -/
def readTextMap (place : Place) (j : Json) (cur : List (String × String)) :
    Decoding (List (String × String)) :=
  match j with
  | .null => pure []
  | .object ms _ =>
    ms.foldlM (fun acc (member : String × Json) => do
      let v ← readTextField "string" (place.child (.member member.1)) member.2 ""
      pure (if acc.any (·.1 == member.1) then
        acc.map fun (k, old) => if k == member.1 then (k, v) else (k, old)
      else acc ++ [(member.1, v)])) cur
  | other => do noteMismatch place (kindWord other) "map[string]string"; pure cur

/-- The text a decimal reader sees for a member: the member as written, with the quotes around
a string of at least one character removed. -/
def decimalSource (j : Json) : String :=
  let raw := j.written
  let cs := raw.toList
  if 2 < cs.length ∧ cs.head? = some '"' ∧ cs.getLast? = some '"' then
    String.ofList (cs.drop 1).dropLast
  else raw

/-- A decimal field; a text that is no decimal stops decoding, reporting the first mismatch
noted before it, if any, or else the decimal complaint. -/
def readDecimalField (_place : Place) (j : Json) (cur : Decimal) : Decoding Decimal :=
  match j with
  | .null => pure cur
  | other =>
    let src := decimalSource other
    match Decimal.ofText src with
    | .ok d => pure d
    | .error e => do
      match ← get with
      | some m => throw m.message
      | none => throw ("error decoding string '" ++ src ++ "': " ++ e)

/-- How one field of a record is read. -/
structure FieldReader (α : Type) where
  name : String
  read : Place → Json → α → Decoding α

/-- Reads an object into a record of the type `typeName`, member by member. -/
def readRecord {α : Type} (typeName : String) (fields : List (FieldReader α)) (place : Place)
    (j : Json) (cur : α) : Decoding α :=
  match j with
  | .null => pure cur
  | .object ms _ =>
    ms.foldlM (fun acc (member : String × Json) =>
      match fields.find? (fun f => Text.foldEq f.name member.1) with
      | some f => f.read (place.child (.member f.name)) member.2 acc
      | none => pure acc) cur
  | other => do noteMismatch place (kindWord other) typeName; pure cur

/-- Reads an array into a list of the type `typeName`, together with its spare elements: those
an earlier, longer array of the same member left past the end of a shorter one. Each element is
read into the one already at its position, spare ones included, or into `blank`, and what the new
array does not reach stays spare. An empty array or `null` starts afresh, with no spare
elements; `null` leaves no list at all. -/
def readList {α : Type} (typeName : String) (blank : α)
    (element : Place → Json → α → Decoding α) (place : Place) (j : Json)
    (cur : Option (List α) × List α) : Decoding (Option (List α) × List α) :=
  match j with
  | .null => pure (none, [])
  | .array [] _ => pure (some [], [])
  | .array xs _ => do
    let old := cur.1.getD [] ++ cur.2
    let vals ← (xs.zipIdx).mapM fun (x, i) => element (place.child (.index i)) x (old.getD i blank)
    pure (some vals, old.drop xs.length)
  | other => do noteMismatch place (kindWord other) typeName; pure cur

/-- Decodes a top-level value into a record whose places start at `root`, or gives the
complaint. -/
def decodeRecord {α : Type} (root typeName : String) (fields : List (FieldReader α)) (init : α)
    (j : Json) : Except String α :=
  match (readRecord typeName fields ⟨root, []⟩ j init).run none with
  | .error e => .error e
  | .ok (_, some m) => .error m.message
  | .ok (v, none) => .ok v

/-- Decodes a top-level value into one of the service's models. -/
def decodeModel {α : Type} (name : String) (fields : List (FieldReader α)) (init : α)
    (j : Json) : Except String α :=
  decodeRecord name ("models." ++ name) fields init j

end Fulfillment.Json
