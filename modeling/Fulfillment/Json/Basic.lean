/-!
# JSON documents

A `Json` value keeps what a reader saw: a number keeps the text it was written with, so that
`1.0`, `1e2` and `100` stay apart, a string keeps the text between its quotes as written, escapes
and all, beside its value, an object keeps its members in order, repeated keys included, and an
array or object keeps the `Span` of text it was read from, blanks and all, so that `written`
gives any value as it stood in its document. `Json.str`, `Json.arr` and `Json.obj` build values
that were never read: a string written with the plainest escapes, and arrays and objects with an
empty span, written compactly.

`render` writes a value on one line with the members of every object sorted by key, which is
the form every answer takes.
-/

namespace Fulfillment

/-- The stretch of a text a value was read from: the text from the value's first character on,
and the text after its last character. Both are ends of the same text, so keeping them costs
nothing; a value that was built rather than read has the empty stretch. -/
structure Span where
  start : List Char := []
  stop : List Char := []
  deriving Inhabited

/-- The characters of a stretch. -/
def Span.text (sp : Span) : String :=
  String.ofList (sp.start.take (sp.start.length - sp.stop.length))

/-- A JSON document whose numbers keep their text, whose objects keep member order, and whose
arrays and objects keep the stretch of text they were read from. -/
inductive Json where
  | null
  | bool (b : Bool)
  | num (text : String)
  | string (value written : String)
  | array (items : List Json) (span : Span)
  | object (members : List (String × Json)) (span : Span)
  deriving Inhabited

namespace Json

/-- An array that was not read from a text. -/
def arr (items : List Json) : Json := array items {}

/-- An object that was not read from a text. -/
def obj (members : List (String × Json)) : Json := object members {}

/-- One character of a string literal in written JSON. -/
def escapeChar (c : Char) : List Char :=
  match c with
  | '"' => ['\\', '"']
  | '\\' => ['\\', '\\']
  | '\n' => ['\\', 'n']
  | '\r' => ['\\', 'r']
  | '\t' => ['\\', 't']
  | _ =>
    if c.toNat < 0x20 then
      let n := c.toNat
      ['\\', 'u', '0', '0', Char.ofNat (48 + n / 16),
        if n % 16 < 10 then Char.ofNat (48 + n % 16) else Char.ofNat (87 + n % 16)]
    else [c]

/-- A string literal. -/
def quoteString (s : String) : String :=
  String.ofList ('"' :: s.toList.flatMap escapeChar ++ ['"'])

/-- A string with the given value, written with the plainest escapes. -/
def str (s : String) : Json := string s (String.ofList (s.toList.flatMap escapeChar))

/-- A whole number. -/
def int (n : Int) : Json := num (toString n)

/-- The value of the first member named `key`, if the value is an object that has one. -/
def field? (j : Json) (key : String) : Option Json :=
  match j with
  | object ms _ => (ms.find? (·.1 == key)).map (·.2)
  | _ => none

/-- The text of a string member. -/
def strField? (j : Json) (key : String) : Option String :=
  match j.field? key with
  | some (string s _) => some s
  | _ => none

/-- The value of a whole-number member written without fraction or exponent. -/
def intField? (j : Json) (key : String) : Option Int :=
  match j.field? key with
  | some (num t) => t.toInt?
  | _ => none

/-- The value of a boolean member. -/
def boolField? (j : Json) (key : String) : Option Bool :=
  match j.field? key with
  | some (bool b) => some b
  | _ => none

/-- The items of an array member. -/
def arrField? (j : Json) (key : String) : Option (List Json) :=
  match j.field? key with
  | some (array xs _) => some xs
  | _ => none

mutual

/-- Writes a value on one line, the members of each object sorted by key. -/
def render : Json → String
  | null => "null"
  | bool true => "true"
  | bool false => "false"
  | num t => t
  | string s _ => quoteString s
  | array items _ => "[" ++ ",".intercalate (renderAll items) ++ "]"
  | object ms _ =>
    let sorted := (renderMembers ms).mergeSort fun a b => decide (a.1 ≤ b.1)
    "\x7b" ++ ",".intercalate (sorted.map fun m => quoteString m.1 ++ ":" ++ m.2) ++ "\x7d"

/-- Writes each value of a list. -/
def renderAll : List Json → List String
  | [] => []
  | j :: js => render j :: renderAll js

/-- Writes the value of each member, keeping its key. -/
def renderMembers : List (String × Json) → List (String × String)
  | [] => []
  | (k, j) :: ms => (k, render j) :: renderMembers ms

end

mutual

/-- Writes a value on one line, keeping member order and each string as it was written, as a
client sends it. -/
def compact : Json → String
  | null => "null"
  | bool true => "true"
  | bool false => "false"
  | num t => t
  | string _ w => "\"" ++ w ++ "\""
  | array items _ => "[" ++ ",".intercalate (compactAll items) ++ "]"
  | object ms _ => "\x7b" ++ ",".intercalate (compactMembers ms) ++ "\x7d"

/-- Writes each value of a list in member order. -/
def compactAll : List Json → List String
  | [] => []
  | j :: js => compact j :: compactAll js

/-- Writes each member in order. -/
def compactMembers : List (String × Json) → List String
  | [] => []
  | (k, j) :: ms => (quoteString k ++ ":" ++ compact j) :: compactMembers ms

end

/-- A value as it stood in the text it was read from; a value that was not read is written
compactly. -/
def written (j : Json) : String :=
  match j with
  | array _ sp | object _ sp => if sp.start.isEmpty then j.compact else sp.text
  | _ => j.compact

end Json

end Fulfillment
