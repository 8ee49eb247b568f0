import Fulfillment.Http.Uri

/-!
# Request heads

A request is formed from a method and a target as the text `<method> <target> HTTP/1.0`
followed by an empty line, an empty method standing for `GET`. A target may itself hold line
breaks, so the text can carry more lines than the request line. `readRequestHead` reads the text
as an HTTP/1 server reads a request head, and says why it is none in the words of the first
check that fails:

1. the request line, up to the first line feed, splits at two spaces into a method, a target
   and a protocol (`malformed HTTP request`); the method is a token (`invalid method`); the
   protocol is `HTTP/x.y` with one digit on each side (`malformed HTTP version`); the target is
   a request URI (`parse "<target>": ...`, see `readRequestUri`), where a `CONNECT` target that
   does not start with `/` is read as an authority after `http://`;
2. header lines follow up to the first empty line (see `readHeaderLines`);
3. there is at most one `Host` header; from version 1.1 on (a version of 0.0 counting as 1.1),
   a `Transfer-Encoding` header must be the only one and read `chunked`; several
   `Content-Length` headers must agree, and one must be empty or a decimal number below 2^63;
   and with `chunked`, a `Trailer` header may not name `Transfer-Encoding`, `Trailer` or
   `Content-Length`.

Every text in a complaint is quoted as `Text.quote` does. The head also says how its body is
framed (`Framing`) and keeps the text after the empty line that ends it, where the body starts.
-/

namespace Fulfillment.Http

/-- How the headers of a request frame its body. -/
inductive Framing where
  /-- No body. -/
  | empty
  /-- A body of a declared number of bytes. -/
  | sized (n : Nat)
  /-- A body in chunks, each with its size. -/
  | chunked
  /-- A body of no declared length: the rest of the text when the connection closes after the
  request, and nothing otherwise. -/
  | unsized (closing : Bool)
  deriving Inhabited, DecidableEq

/-- A request head: the method, the request URI, the header fields in the order they come, how
the body is framed, and the text after the head. -/
structure RequestHead where
  method : String
  uri : RequestUri
  headers : List (String × String)
  framing : Framing
  rest : List Char
  deriving Inhabited

/-- Whether a character may stand in an HTTP token. -/
def isTokenChar (c : Char) : Bool :=
  c.isAlphanum || "!#$%&*+-.^_|~".toList.contains c || c.toNat == 0x27 || c.toNat == 0x60

/-- Whether a character may stand in a header value: a tab, printable ASCII, or anything
beyond ASCII. -/
def isValueChar (c : Char) : Bool :=
  c == '\t' || (0x20 ≤ c.toNat && c.toNat ≤ 0x7E) || 0x80 ≤ c.toNat

/-- Whether a character is a space or a tab. -/
def isBlankChar (c : Char) : Bool := c == ' ' || c == '\t'

/-- A text without its leading and trailing spaces and tabs. -/
def trimBlanks (cs : List Char) : List Char :=
  ((cs.dropWhile isBlankChar).reverse.dropWhile isBlankChar).reverse

/-- A text without its leading and trailing ASCII spaces, tabs, carriage returns and line
feeds. -/
def trimSpace (s : String) : String :=
  let space (c : Char) := c == ' ' || c == '\t' || c == '\r' || c == '\n'
  String.ofList ((s.toList.dropWhile space).reverse.dropWhile space).reverse

/-- The first line of a text and the text after its line feed, with a carriage return right
before the line feed dropped; a text with no line feed is one last line. -/
def splitLine (cs : List Char) : List Char × List Char :=
  let line := cs.takeWhile (· != '\n')
  if line.length < cs.length then
    (if line.getLast? == some '\r' then line.dropLast else line, cs.drop (line.length + 1))
  else (line, [])

/-- The lines of a text up to its first empty line, that line included, and the text after it.
Each round takes at least one character, so one round for each character is enough. -/
def linesToBlank : Nat → List Char → List (List Char) × List Char
  | 0, cs => ([], cs)
  | fuel + 1, cs =>
    if cs.isEmpty then ([], [])
    else
      let (line, rest) := splitLine cs
      if line.isEmpty then ([[]], rest)
      else
        let (more, after) := linesToBlank fuel rest
        (line :: more, after)

/-- A text cut at the first occurrence of a character. -/
def cutAt (c : Char) (cs : List Char) : Option (List Char × List Char) :=
  (cs.idxOf? c).map fun i => (cs.take i, cs.drop (i + 1))

/-- The version a protocol names: `HTTP/` and then a digit, a point and a digit. -/
def readVersion : List Char → Option (Nat × Nat)
  | ['H', 'T', 'T', 'P', '/', major, '.', minor] =>
    if major.isDigit && minor.isDigit then some (major.toNat - 48, minor.toNat - 48) else none
  | _ => none

/-- A header name in its canonical form: a letter at the start or after a `-` in uppercase,
every other letter in lowercase. -/
def canonicalName (cs : List Char) : List Char :=
  (cs.foldl (fun (acc : List Char × Bool) c =>
    let c' := if acc.2 then c.toUpper else c.toLower
    (acc.1 ++ [c'], c' == '-')) ([], true)).1

/-- A header name as a header table keys it: in canonical form when it is a token, and as it
is otherwise. -/
def headerKey (s : String) : String :=
  if s.toList.all isTokenChar then String.ofList (canonicalName s.toList) else s

/-- The header field of a whole header line, its continuations joined: the name before the
first colon must be a token, where spaces are let through and then keep the name from its
canonical form; the value must hold only `isValueChar`s, and loses its leading blanks. -/
def readHeaderField (kv : List Char) : Except String (String × String) :=
  let name := kv.takeWhile (· != ':')
  let value := (kv.dropWhile (· != ':')).drop 1
  if name.isEmpty || !name.all (fun c => isTokenChar c || c == ' ') || !value.all isValueChar then
    .error ("malformed MIME header line: " ++ Text.quote (String.ofList kv))
  else
    let key := if name.contains ' ' then name else canonicalName name
    .ok (String.ofList key, String.ofList (value.dropWhile isBlankChar))

/-- Whether a line continues the header line before it: it starts with a space or a tab. -/
def continues (line : List Char) : Bool :=
  match line with
  | c :: _ => isBlankChar c
  | [] => false

/-- Reads header lines up to the first empty line. A line must hold a colon; the lines after it
that start with a blank continue it, each joined to it by one space with its own blanks trimmed.
One round for each line is enough. -/
def readHeaderLines : Nat → List (List Char) → Except String (List (String × String))
  | 0, _ => .ok []
  | _, [] => .ok []
  | fuel + 1, line :: rest =>
    if line.isEmpty then .ok []
    else if !line.contains ':' then
      .error ("malformed MIME header: missing colon: " ++ Text.quote (String.ofList line))
    else do
      let more := rest.takeWhile continues
      let kv := trimBlanks line ++ more.flatMap fun l => ' ' :: trimBlanks l
      let field ← readHeaderField kv
      let fields ← readHeaderLines fuel (rest.dropWhile continues)
      return field :: fields

/-- Reads the header section: a first line that starts with a blank is refused, showing the line
when it has at most 80 bytes. -/
def readHeaders (lines : List (List Char)) : Except String (List (String × String)) :=
  match lines with
  | line :: _ =>
    if continues line then
      if 80 < (line.flatMap String.utf8EncodeChar).length then .error "http: request too large"
      else .error ("malformed MIME header initial line: " ++ Text.quote (String.ofList line))
    else readHeaderLines lines.length lines
  | [] => .ok []

/-- The values of a header, in order. -/
def valuesOf (headers : List (String × String)) (key : String) : List String :=
  (headers.filter (·.1 == key)).map (·.2)

/-- Texts written as a bracketed list of quoted texts. -/
def quoteList (xs : List String) : String :=
  "[" ++ " ".intercalate (xs.map Text.quote) ++ "]"

/-- Whether a text is a decimal number below 2^63. -/
def isContentLength (s : String) : Bool :=
  !s.isEmpty && s.toList.all Char.isDigit && (s.toNat?.getD 0) < Nat.pow 2 63

/-- The names a `Trailer` value lists: cut at commas, each trimmed, empty ones left out. -/
def trailerNames (v : String) : List String :=
  ((trimSpace v).splitOn ",").map trimSpace |>.filter (!·.isEmpty)

/-- Whether a header value lists a token among its comma-separated parts, up to ASCII case. -/
def listsToken (value token : String) : Bool :=
  (value.splitOn ",").any fun part =>
    (trimBlanks part.toList).map Char.toLower == token.toList.map Char.toLower

/-- Whether the connection closes after a request of a version with these headers: always
below version 1; for version 1.0 unless `Connection` lists `keep-alive` and not `close`; and
otherwise when `Connection` lists `close`. -/
def closesAfter (version : Nat × Nat) (headers : List (String × String)) : Bool :=
  let lists (t : String) := (valuesOf headers "Connection").any (listsToken · t)
  if version.1 < 1 then true
  else if version == (1, 0) then lists "close" || !lists "keep-alive"
  else lists "close"

/-- Checks the framing headers of a request head of the given version, and answers how the body
is framed, with the headers less `Transfer-Encoding`, and less `Content-Length` when the body is
chunked. An empty `Content-Length` declares no length. -/
def checkFraming (version : Nat × Nat) (headers : List (String × String)) :
    Except String (List (String × String) × Framing) := do
  let closing := closesAfter version headers
  let (major, minor) := if version == (0, 0) then (1, 1) else version
  let encodings := valuesOf headers "Transfer-Encoding"
  let headers := headers.filter (·.1 != "Transfer-Encoding")
  let chunked ← if encodings.isEmpty || !(1 < major || (major == 1 && 1 ≤ minor)) then
      pure false
    else match encodings with
      | [e] =>
        if e.toList.map Char.toLower == "chunked".toList then pure true
        else throw ("unsupported transfer encoding: " ++ Text.quote e)
      | _ => throw ("too many transfer encodings: " ++ quoteList encodings)
  let headers := if chunked then headers.filter (·.1 != "Content-Length") else headers
  let lengths := valuesOf headers "Content-Length"
  if lengths.length > 1 && lengths.any (trimSpace · != trimSpace (lengths.headD "")) then
    throw ("http: message cannot contain multiple Content-Length headers; got " ++
      quoteList lengths)
  let framing ← if chunked then pure Framing.chunked
    else match lengths with
      | first :: _ =>
        let n := trimSpace first
        if n.isEmpty then pure (Framing.unsized closing)
        else if !isContentLength n then throw ("bad Content-Length " ++ Text.quote n)
        else
          let size := n.toNat?.getD 0
          pure (if size == 0 then Framing.empty else Framing.sized size)
      | [] => pure Framing.empty
  if chunked then
    let named := (valuesOf headers "Trailer").flatMap trailerNames |>.map headerKey
    let framing (k : String) := k == "Transfer-Encoding" || k == "Trailer" || k == "Content-Length"
    match named.find? framing with
    | some k => throw ("bad trailer key " ++ Text.quote k)
    | none => pure ()
  return (headers, framing)

/-- Reads the head of the request a method and a target form, or says why they form none. The
`Host` header is left out of the fields. -/
def readRequestHead (method target : String) : Except String RequestHead := do
  let method := if method.isEmpty then "GET" else method
  let (line, afterLine) := splitLine (method ++ " " ++ target ++ " HTTP/1.0\r\n\r\n").toList
  let malformed : Except String RequestHead :=
    .error ("malformed HTTP request " ++ Text.quote (String.ofList line))
  match cutAt ' ' line with
  | none => malformed
  | some (name, rest) =>
    match cutAt ' ' rest with
    | none => malformed
    | some (uri, proto) =>
      let name := String.ofList name
      if name.isEmpty || !name.toList.all isTokenChar then
        throw ("invalid method " ++ Text.quote name)
      match readVersion proto with
      | none => throw ("malformed HTTP version " ++ Text.quote (String.ofList proto))
      | some version =>
        let authorityOnly := name == "CONNECT" && uri.head? != some '/'
        let raw := (if authorityOnly then "http://" else "") ++ String.ofList uri
        let parsed ← match readRequestUri raw with
          | .ok u => pure u
          | .error e => throw ("parse " ++ Text.quote raw ++ ": " ++ e)
        let parsed := if authorityOnly then { parsed with scheme := "" } else parsed
        let (lines, rest) := linesToBlank afterLine.length afterLine
        let headers ← readHeaders lines
        if (valuesOf headers "Host").length > 1 then throw "too many Host headers"
        let (headers, framing) ← checkFraming version headers
        return ⟨name, parsed, headers.filter (·.1 != "Host"), framing, rest⟩

end Fulfillment.Http
