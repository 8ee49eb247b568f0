import Fulfillment.Http.Address
import Fulfillment.Http.Path

/-!
# Request URIs

A request line names its target as a request URI. `readRequestUri` reads one, and says why a
text is none in the words of the first check that fails:

1. the text has no control characters (`net/url: invalid control character in URL`) and is not
   empty (`empty url`); `*` alone is a path;
2. a leading scheme is letters, then letters, digits, `+`, `-` or `.`, ending at a colon; a
   colon first is `missing protocol scheme`; the scheme is kept in lowercase;
3. the query starts at the first `?`;
4. a rest that does not start with `/` is rootless after a scheme, and refused without one
   (`invalid URI for request`);
5. after a scheme, `//` starts an authority that runs to the next `/` (see `readAuthority`);
6. every `%` in the path starts an escape with two hexadecimal digits (`invalid URL escape`).

Texts are checked for the part of the URI they stand in (`EscapeMode`): a host may escape only
bytes outside ASCII and a `%` (as `%25`), and may hold no ASCII character that must be escaped
there. A URI is written back by `RequestUri.link`, as a redirect writes its link, with percent
escapes in uppercase.
-/

namespace Fulfillment.Http

/-- The part of a URI a text stands in. -/
inductive EscapeMode where
  | path
  | host
  | zone
  | user
  deriving DecidableEq

/-- Whether a byte is an ASCII letter or digit. -/
def isAsciiAlnum (b : Nat) : Bool :=
  (0x30 ≤ b && b ≤ 0x39) || (0x41 ≤ b && b ≤ 0x5A) || (0x61 ≤ b && b ≤ 0x7A)

/-- Whether a byte must be escaped in a host: all but ASCII letters and digits, `-_.~`, the
apostrophe and ``!$&()*+,;=:[]<>"``. -/
def hostEscapes (b : Nat) : Bool :=
  !(isAsciiAlnum b || b == 0x27 || "-_.~!$&()*+,;=:[]<>\"".toList.any (·.toNat == b))

/-- Whether a byte must be escaped in user information: all but ASCII letters and digits,
`-_.~` and `$&+,;=`. -/
def userEscapes (b : Nat) : Bool :=
  !(isAsciiAlnum b || "-_.~$&+,;=".toList.any (·.toNat == b))

/-- Whether a character may stand in user information as written: ASCII letters and digits,
the apostrophe and `-._:~!$&()*+,;=%@`. -/
def userInfoChar (c : Char) : Bool :=
  isAsciiAlnum c.toNat || c.toNat == 0x27 || "-._:~!$&()*+,;=%@".toList.contains c

/-- The complaint about a `%` that starts no escape, showing it with the two bytes after it. -/
def badEscape (rest : List Char) : String :=
  "invalid URL escape " ++ quoteByteText ((rest.flatMap String.utf8EncodeChar).take 3)

/-- Why a text does not decode in a part of a URI: a `%` without two hexadecimal digits; in a
host, an escape of an ASCII byte other than `%25`; in a zone, an escape of a byte that may not
stand in a host, other than `%25` and a space; and in a host or zone, an ASCII character that must
be escaped there. -/
def escapeFault? (mode : EscapeMode) : List Char → Option String
  | [] => none
  | '%' :: rest =>
    match rest with
    | a :: b :: more =>
      match hexValue? a, hexValue? b with
      | some x, some y =>
        let percent := a == '2' && b == '5'
        if mode == .host && x < 8 && !percent then some (badEscape ('%' :: rest))
        else if mode == .zone && !percent && 16 * x + y != 0x20 && hostEscapes (16 * x + y) then
          some (badEscape ('%' :: rest))
        else escapeFault? mode more
      | _, _ => some (badEscape ('%' :: rest))
    | _ => some (badEscape ('%' :: rest))
  | c :: rest =>
    if (mode == .host || mode == .zone) && c.toNat < 0x80 && hostEscapes c.toNat then
      some ("invalid character " ++ Text.quote (String.singleton c) ++ " in host name")
    else escapeFault? mode rest

/-- Checks a text for a part of a URI and decodes its escapes. -/
def decodeFor (mode : EscapeMode) (cs : List Char) : Except String (List UInt8) :=
  match escapeFault? mode cs with
  | some e => .error e
  | none => .ok (unescapeBytes cs)

/-- The place of the last occurrence of a character. -/
def lastIndexOf (c : Char) (cs : List Char) : Option Nat :=
  (cs.reverse.idxOf? c).map fun i => cs.length - 1 - i

/-- The place of the first occurrence of a list inside another. -/
def indexOfInfix (part : List Char) : List Char → Option Nat
  | [] => if part.isEmpty then some 0 else none
  | c :: rest =>
    if part.isPrefixOf (c :: rest) then some 0 else (indexOfInfix part rest).map (· + 1)

/-- Whether a text after a host is a port: empty, or a colon and decimal digits. -/
def validOptionalPort : List Char → Bool
  | [] => true
  | ':' :: digits => digits.all Char.isDigit
  | _ => false

/-- The bytes of a host. A host with a `[` must start with it and have no other; it holds an IPv6
address between it and the last `]`, with an optional zone after `%25`, and then an optional
port, and the address must read as an IPv6 address. Any other host may end in a port after its
last colon. -/
def readHost (host : List Char) : Except String (List UInt8) :=
  let portFault (port : List Char) : Except String (List UInt8) :=
    .error ("invalid port " ++ Text.quote (String.ofList port) ++ " after host")
  match lastIndexOf '[' host with
  | some opening =>
    if opening != 0 then .error "invalid IP-literal" else
    match lastIndexOf ']' host with
    | none => .error "missing \x27]\x27 in host"
    | some closing =>
      let port := host.drop (closing + 1)
      if !validOptionalPort port then portFault port
      else do
        let name := (host.drop (opening + 1)).take (closing - opening - 1)
        let address ← match indexOfInfix "%25".toList name with
          | some z => do
            let before ← decodeFor .host (name.take z)
            let zone ← decodeFor .zone (name.drop z)
            pure (before ++ zone)
          | none => decodeFor .host name
        match readAddress address with
        | .error f => .error ("invalid host: " ++ f.describe address)
        | .ok .v4 => .error "invalid IP-literal"
        | .ok .v6 => .ok ([0x5B] ++ address ++ [0x5D] ++ port.flatMap String.utf8EncodeChar)
  | none =>
    match lastIndexOf ':' host with
    | some i => if validOptionalPort (host.drop i) then decodeFor .host host
      else portFault (host.drop i)
    | none => decodeFor .host host

/-- The user information and the host of an authority, each as a URI writes it back. The host
follows the last `@`; the user information before it may hold only `userInfoChar`s, and a
colon in it parts the name from the password. -/
def readAuthority (authority : List Char) : Except String (Option String × String) := do
  let written (bs : List UInt8) := escapeBytes (fun b => hostEscapes b.toNat) bs
  match lastIndexOf '@' authority with
  | none => return (none, written (← readHost authority))
  | some i =>
    let host ← readHost (authority.drop (i + 1))
    let info := authority.take i
    if !info.all userInfoChar then throw "net/url: invalid userinfo"
    let user (cs : List Char) : Except String String := do
      return escapeBytes (fun b => userEscapes b.toNat) (← decodeFor .user cs)
    match info.idxOf? ':' with
    | some j => do
      let name ← user (info.take j)
      let password ← user (info.drop (j + 1))
      return (some (name ++ ":" ++ password), written host)
    | none => return (some (← user info), written host)

/-- What stands between a URI's scheme and its path. -/
inductive Authority where
  /-- No authority. -/
  | none
  /-- An authority: the user information as written back, if any, and the host as written
  back, which may be empty. -/
  | given (user : Option String) (host : String)
  deriving Inhabited

/-- A request URI: its scheme in lowercase (empty for a path alone), its authority, the text of
a rootless URI after its scheme, its path as written, escapes and all, and its query with its
`?`, or empty when it has none. -/
structure RequestUri where
  scheme : String := ""
  authority : Authority := .none
  rootless : Option String := none
  path : String := ""
  query : String := ""
  deriving Inhabited

/-- A path alone, with no query. -/
def RequestUri.ofPath (path : String) : RequestUri := { path := path }

/-- Whether a URI names neither a scheme nor a host, so that a link to it is relative. -/
def RequestUri.relative (u : RequestUri) : Bool :=
  u.scheme.isEmpty &&
    match u.authority with
    | .none => true
    | .given user host => user.isNone && host.isEmpty

/-- The scheme of a URI and the rest after its colon, or why the colon comes too early. A URI
whose leading letters end at anything but a colon has no scheme. -/
def splitScheme (cs : List Char) : Except String (Option (List Char) × List Char) :=
  let rec go : Nat → List Char → List Char → Except String (Option (List Char) × List Char)
    | _, _, [] => .ok (none, cs)
    | i, seen, c :: rest =>
      if c.isAlpha then go (i + 1) (seen ++ [c]) rest
      else if c.isDigit || c == '+' || c == '-' || c == '.' then
        if i == 0 then .ok (none, cs) else go (i + 1) (seen ++ [c]) rest
      else if c == ':' then
        if i == 0 then .error "missing protocol scheme" else .ok (some seen, rest)
      else .ok (none, cs)
  go 0 [] cs

/-- Whether a character is a control character: below a space, or DEL. -/
def isControl (c : Char) : Bool := c.toNat < 0x20 || c.toNat == 0x7f

/-- Reads a request URI, or says why the text is none. -/
def readRequestUri (text : String) : Except String RequestUri :=
  let cs := text.toList
  if cs.any isControl then .error "net/url: invalid control character in URL"
  else if cs.isEmpty then .error "empty url"
  else if cs == ['*'] then .ok { path := "*" }
  else do
    let (scheme, rest) ← splitScheme cs
    let scheme := String.ofList ((scheme.getD []).map Char.toLower)
    let (rest, query) : List Char × String :=
      if rest.getLast? == some '?' && rest.count '?' == 1 then (rest.dropLast, "?")
      else match rest.idxOf? '?' with
        | some i => (rest.take i, String.ofList (rest.drop i))
        | none => (rest, "")
    if rest.head? != some '/' then
      if scheme.isEmpty then throw "invalid URI for request"
      else return { scheme, rootless := some (String.ofList rest), query }
    else
      let (authority, path) ← match scheme.isEmpty, rest with
        | false, '/' :: '/' :: more => do
          let text := more.takeWhile (· != '/')
          let (user, host) ← readAuthority text
          pure (Authority.given user host, more.drop text.length)
        | _, _ => pure (Authority.none, rest)
      match escapeFault? .path path with
      | some e => throw e
      | none => return { scheme, authority, path := String.ofList path, query }

/-- A URI written back with `path`, escaped and not empty, in place of its own path: the scheme
and a colon; `//`, the user information and `@`, and the host when there is an authority; a
slash when the path follows a host and does not start with one; the path; and the query. A path
that starts with `//` right after the scheme's colon would read as an authority, so its first
slash is written `%2F`. A rootless URI is written with its rootless text in place of any
path. -/
def RequestUri.link (u : RequestUri) (path : String) : String :=
  let lead := if u.scheme.isEmpty then "" else u.scheme ++ ":"
  match u.rootless with
  | some text => lead ++ text ++ u.query
  | none =>
    let (middle, named) : String × Bool :=
      match u.authority with
      | .none => ("", false)
      | .given user host =>
        if u.scheme.isEmpty && host.isEmpty && user.isNone then ("", false)
        else ("//" ++ (match user with | some s => s ++ "@" | none => "") ++ host, !host.isEmpty)
    let path :=
      if !u.scheme.isEmpty && middle.isEmpty && path.startsWith "//" then "%2F" ++ path.drop 1
      else path
    lead ++ middle ++ (if named && !path.startsWith "/" then "/" else "") ++ path ++ u.query

end Fulfillment.Http
