import Fulfillment.Json.Basic
import Fulfillment.Text.Blank
import Fulfillment.Text.Quoted
import Fulfillment.Text.Utf8

/-!
# Reading JSON

`readFirst` reads the first JSON value of a text, as a streaming reader does: blanks may
surround it and whatever follows it is left unread. It fails in one of five ways:

* the text is empty or blank (`SyntaxFault.empty`, written `EOF`);
* the text ends inside the value (`SyntaxFault.truncated`, written `unexpected EOF`);
* a character cannot continue the value (`SyntaxFault.badChar`), written with the character
  quoted and what the reader was looking for, as in
  `invalid character '}' looking for beginning of object key string`, or with the part of the
  value it breaks: `in numeric literal`, `in string`;
* a backslash in a string starts no escape (`SyntaxFault.badEscape`): the escape is shown as
  written, counted in UTF-8 bytes: the backslash and the byte after it, or for `\u` the four
  bytes after it (all that is left when fewer are). A character cut there leaves stray bytes,
  and an escape with a stray byte, a backtick, a blank or anything not printable is shown
  quoted instead of between backticks;
* an object or array opens 10001 deep (`SyntaxFault.tooDeep`, written `exceeded max depth`).

The first offending character wins, reading left to right. String escapes are decoded, and a
string also keeps the text between its quotes as written; a `\u` escape of half a surrogate pair
that is not followed by the other half stands for U+FFFD. Arrays and objects keep the stretch of
text from their opening bracket to their closing one.
-/

namespace Fulfillment.Json

/-- Why a text is not a JSON value. -/
inductive SyntaxFault where
  | empty
  | truncated
  | badChar (c : Char) (context : String)
  | badEscape (written : List UInt8)
  | tooDeep
  deriving Inhabited

/-- Whether an escape can be shown between backticks: it holds no stray byte, no backtick, no
replacement character, no blank and nothing that is not printable. Otherwise it is shown
quoted. -/
def showsPlain (written : List Text.Piece) : Bool :=
  written.all fun p => match p with
    | .char c => c != Char.ofNat 0x60 && c != Char.ofNat 0xFFFD && !Text.isBlank c &&
        Text.isPrintable c
    | .stray _ => false

/-- The text of a syntax fault. -/
def SyntaxFault.message : SyntaxFault → String
  | .empty => "EOF"
  | .truncated => "unexpected EOF"
  | .badChar c context => "invalid character " ++ Text.quoteChar c ++ " " ++ context
  | .badEscape w =>
    let pieces := Text.readUtf8 w
    let shown := if showsPlain pieces then "\x60" ++ String.ofList (pieces.map (·.toChar)) ++ "\x60"
      else Text.quotePieces pieces
    "invalid escape sequence " ++ shown ++ " in string"
  | .tooDeep => "exceeded max depth"

/-- The blanks between JSON tokens. -/
def isSpace (c : Char) : Bool :=
  c == ' ' || c == '\t' || c == '\n' || c == '\r'

/-- The deepest nesting of arrays and objects a reader accepts. -/
def maxDepth : Nat := 10000

/-- The value of a hexadecimal digit. -/
def hexValue? (c : Char) : Option Nat :=
  if '0' ≤ c ∧ c ≤ '9' then some (c.toNat - 48)
  else if 'a' ≤ c ∧ c ≤ 'f' then some (c.toNat - 87)
  else if 'A' ≤ c ∧ c ≤ 'F' then some (c.toNat - 55)
  else none

/-- The UTF-8 bytes of characters. -/
def charBytes (cs : List Char) : List UInt8 := cs.flatMap String.utf8EncodeChar

/-- Four hexadecimal digits after `\u`. Otherwise the four bytes after `\u` are a bad escape,
or, when the text has fewer left, the text is cut short if what is left are digits and a bad
escape if not. -/
def readHex4 (cs : List Char) : Except SyntaxFault (Nat × List Char) :=
  let fault : SyntaxFault :=
    let bs := charBytes (cs.take 4)
    if bs.length < 4 then
      if bs.all fun b => (hexValue? (Char.ofNat b.toNat)).isSome then .truncated
      else .badEscape (charBytes ['\\', 'u'] ++ bs)
    else .badEscape (charBytes ['\\', 'u'] ++ bs.take 4)
  match cs with
  | a :: b :: c :: d :: rest =>
    match hexValue? a, hexValue? b, hexValue? c, hexValue? d with
    | some va, some vb, some vc, some vd => .ok (((va * 16 + vb) * 16 + vc) * 16 + vd, rest)
    | _, _, _, _ => .error fault
  | _ => .error fault

/-- Whether a code is half of a UTF-16 surrogate pair. -/
def isSurrogate (n : Nat) : Bool := 0xD800 ≤ n && n < 0xE000

/-- The character a `\u` escape stands for, joining a surrogate pair when the low half follows. -/
def unicodeEscape (code : Nat) (rest : List Char) : Char × List Char :=
  if isSurrogate code then
    match rest with
    | '\\' :: 'u' :: more =>
      match readHex4 more with
      | .ok (low, after) =>
        if 0xD800 ≤ code ∧ code < 0xDC00 ∧ 0xDC00 ≤ low ∧ low < 0xE000 then
          (Char.ofNat (0x10000 + (code - 0xD800) * 0x400 + (low - 0xDC00)), after)
        else (Char.ofNat 0xFFFD, rest)
      | .error _ => (Char.ofNat 0xFFFD, rest)
    | _ => (Char.ofNat 0xFFFD, rest)
  else (Char.ofNat code, rest)

/-- The rest of a string literal after its opening quote, with its decoded text. -/
def readString : Nat → List Char → List Char → Except SyntaxFault (String × List Char)
  | 0, _, _ => .error .truncated
  | _ + 1, [], _ => .error .truncated
  | fuel + 1, c :: rest, acc =>
    if c = '"' then .ok (String.ofList acc.reverse, rest)
    else if c = '\\' then
      match rest with
      | [] => .error .truncated
      | e :: more =>
        match e with
        | '"' => readString fuel more ('"' :: acc)
        | '\\' => readString fuel more ('\\' :: acc)
        | '/' => readString fuel more ('/' :: acc)
        | 'b' => readString fuel more ('\x08' :: acc)
        | 'f' => readString fuel more ('\x0c' :: acc)
        | 'n' => readString fuel more ('\n' :: acc)
        | 'r' => readString fuel more ('\r' :: acc)
        | 't' => readString fuel more ('\t' :: acc)
        | 'u' =>
          match readHex4 more with
          | .ok (code, after) =>
            let (ch, after') := unicodeEscape code after
            readString fuel after' (ch :: acc)
          | .error f => .error f
        | _ => .error (.badEscape ((charBytes ['\\', e]).take 2))
    else if c.toNat < 0x20 then .error (.badChar c "in string")
    else readString fuel rest (c :: acc)

/-- The text of a string literal between its quotes, as written: `body` starts after the
opening quote and `after` follows the closing one. -/
def writtenBetween (body after : List Char) : String :=
  String.ofList (body.take (body.length - after.length - 1))

/-- An array or object that was read from the stretch `sp`. -/
def spanned (sp : Span) : Json × List Char → Json × List Char
  | (.array items _, after) => (.array items sp, after)
  | (.object ms _, after) => (.object ms sp, after)
  | other => other

/-- Splits off the leading decimal digits. -/
def spanDigits (cs : List Char) : List Char × List Char :=
  (cs.takeWhile Char.isDigit, cs.dropWhile Char.isDigit)

/-- The exponent part of a number, from just after `e` or `E`. -/
def readExponent (cs : List Char) : Except SyntaxFault (List Char × List Char) :=
  let (sign, rest) : List Char × List Char :=
    match cs with
    | '+' :: r => (['+'], r)
    | '-' :: r => (['-'], r)
    | r => ([], r)
  match rest with
  | [] => .error .truncated
  | d :: _ =>
    if d.isDigit then
      let (ds, after) := spanDigits rest
      .ok (sign ++ ds, after)
    else .error (.badChar d "in numeric literal")

/-- The fraction and exponent that may follow the integer part of a number. -/
def readNumberTail (cs : List Char) : Except SyntaxFault (List Char × List Char) :=
  let afterFraction : Except SyntaxFault (List Char × List Char) :=
    match cs with
    | '.' :: rest =>
      match rest with
      | [] => .error .truncated
      | d :: _ =>
        if d.isDigit then
          let (ds, after) := spanDigits rest
          .ok ('.' :: ds, after)
        else .error (.badChar d "in numeric literal")
    | _ => .ok ([], cs)
  match afterFraction with
  | .error f => .error f
  | .ok (frac, rest) =>
    match rest with
    | e :: more =>
      if e = 'e' ∨ e = 'E' then
        match readExponent more with
        | .ok (ex, after) => .ok (frac ++ e :: ex, after)
        | .error f => .error f
      else .ok (frac, rest)
    | [] => .ok (frac, rest)

/-- A number whose first character (a minus sign or a digit) is at the head of the input. -/
def readNumber (cs : List Char) : Except SyntaxFault (String × List Char) :=
  let (sign, body) : List Char × List Char :=
    match cs with
    | '-' :: r => (['-'], r)
    | r => ([], r)
  match body with
  | [] => .error .truncated
  | d :: more =>
    if d = '0' then
      match readNumberTail more with
      | .ok (tail, after) => .ok (String.ofList (sign ++ '0' :: tail), after)
      | .error f => .error f
    else if d.isDigit then
      let (ds, after) := spanDigits more
      match readNumberTail after with
      | .ok (tail, after') => .ok (String.ofList (sign ++ d :: ds ++ tail), after')
      | .error f => .error f
    else .error (.badChar d "in numeric literal")

/-- The rest of a literal word after its first letter. -/
def readWord (word : String) (expect : List Char) (cs : List Char) :
    Except SyntaxFault (List Char) :=
  match expect, cs with
  | [], rest => .ok rest
  | _ :: _, [] => .error .truncated
  | e :: es, c :: rest =>
    if c = e then readWord word es rest
    else .error (.badChar c ("in literal " ++ word ++ " (expecting " ++ Text.quoteChar e ++ ")"))

mutual

/-- A value, after any blanks. -/
def readValue : Nat → Nat → List Char → Except SyntaxFault (Json × List Char)
  | 0, _, _ => .error .truncated
  | fuel + 1, depth, cs =>
    match cs.dropWhile isSpace with
    | [] => .error .truncated
    | whole@(c :: rest) =>
      if c = '{' then
        if maxDepth ≤ depth then .error .tooDeep
        else (readObjectStart fuel (depth + 1) rest).map fun r => spanned ⟨whole, r.2⟩ r
      else if c = '[' then
        if maxDepth ≤ depth then .error .tooDeep
        else (readArrayStart fuel (depth + 1) rest).map fun r => spanned ⟨whole, r.2⟩ r
      else if c = '"' then
        match readString rest.length rest [] with
        | .ok (s, after) => .ok (.string s (writtenBetween rest after), after)
        | .error f => .error f
      else if c = '-' ∨ c.isDigit then
        match readNumber (c :: rest) with
        | .ok (t, after) => .ok (.num t, after)
        | .error f => .error f
      else if c = 't' then
        match readWord "true" ['r', 'u', 'e'] rest with
        | .ok after => .ok (.bool true, after)
        | .error f => .error f
      else if c = 'f' then
        match readWord "false" ['a', 'l', 's', 'e'] rest with
        | .ok after => .ok (.bool false, after)
        | .error f => .error f
      else if c = 'n' then
        match readWord "null" ['u', 'l', 'l'] rest with
        | .ok after => .ok (.null, after)
        | .error f => .error f
      else .error (.badChar c "looking for beginning of value")

/-- An array after its opening bracket: empty, or a first element and the rest. -/
def readArrayStart : Nat → Nat → List Char → Except SyntaxFault (Json × List Char)
  | 0, _, _ => .error .truncated
  | fuel + 1, depth, cs =>
    match cs.dropWhile isSpace with
    | ']' :: rest => .ok (.arr [], rest)
    | rest => readArrayItems fuel depth rest []

/-- Array elements, each followed by a comma or the closing bracket. -/
def readArrayItems : Nat → Nat → List Char → List Json → Except SyntaxFault (Json × List Char)
  | 0, _, _, _ => .error .truncated
  | fuel + 1, depth, cs, acc =>
    match readValue fuel depth cs with
    | .error f => .error f
    | .ok (v, after) =>
      match after.dropWhile isSpace with
      | [] => .error .truncated
      | c :: rest =>
        if c = ',' then readArrayItems fuel depth rest (v :: acc)
        else if c = ']' then .ok (.arr (v :: acc).reverse, rest)
        else .error (.badChar c "after array element")

/-- An object after its opening brace: empty, or its members. -/
def readObjectStart : Nat → Nat → List Char → Except SyntaxFault (Json × List Char)
  | 0, _, _ => .error .truncated
  | fuel + 1, depth, cs =>
    match cs.dropWhile isSpace with
    | '}' :: rest => .ok (.obj [], rest)
    | rest => readMembers fuel depth rest []

/-- Object members: a key, a colon, a value, then a comma or the closing brace. -/
def readMembers : Nat → Nat → List Char → List (String × Json) →
    Except SyntaxFault (Json × List Char)
  | 0, _, _, _ => .error .truncated
  | fuel + 1, depth, cs, acc =>
    match cs.dropWhile isSpace with
    | [] => .error .truncated
    | c :: rest =>
      if c ≠ '"' then .error (.badChar c "looking for beginning of object key string")
      else
        match readString rest.length rest [] with
        | .error f => .error f
        | .ok (key, afterKey) =>
          match afterKey.dropWhile isSpace with
          | [] => .error .truncated
          | colon :: afterColon =>
            if colon ≠ ':' then .error (.badChar colon "after object key")
            else
              match readValue fuel depth afterColon with
              | .error f => .error f
              | .ok (v, afterValue) =>
                match afterValue.dropWhile isSpace with
                | [] => .error .truncated
                | d :: more =>
                  if d = ',' then readMembers fuel depth more ((key, v) :: acc)
                  else if d = '}' then .ok (.obj ((key, v) :: acc).reverse, more)
                  else .error (.badChar d "after object key:value pair")

end

/-- The first JSON value of a text and what follows it. -/
def readFirst (s : String) : Except SyntaxFault (Json × List Char) :=
  let cs := s.toList
  if cs.all isSpace then .error .empty
  else readValue (3 * cs.length + 3) 0 cs

/-- The first JSON value of a text as a streaming decoder takes it: whatever follows the value
is left unread, even when it could have continued a number or a literal. -/
def readLeading (s : String) : Except SyntaxFault Json :=
  (readFirst s).map (·.1)

/-- A text that holds exactly one JSON value, blanks aside. -/
def parse? (s : String) : Option Json :=
  match readFirst s with
  | .ok (j, rest) => if rest.all isSpace then some j else none
  | .error _ => none

end Fulfillment.Json
