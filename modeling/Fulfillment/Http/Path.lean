import Fulfillment.Text.Utf8

/-!
# Request paths

A request path arrives with percent escapes. Decoded, it is a string of bytes that need not be
UTF-8. A `PathText` reads those bytes as `Text.Piece`s: characters where it can, and each byte that
starts no well-formed character as a stray byte of its own (see `Text.readUtf8`).

* `PathText.ofEscaped` decodes the escapes (a `%` without two hexadecimal digits stays as it is)
  and reads the bytes;
* `PathText.toText` is the text a service sees, each stray byte read as U+FFFD;
* `PathText.quote` writes it between double quotes the way `Text.quote` writes text, with a
  stray byte as `\xNN`;
* `PathText.escaped` writes it back with escapes, for a link.
-/

namespace Fulfillment.Http

/-- A decoded request path. -/
abbrev PathText := List Text.Piece

/-- The value of a hexadecimal digit. -/
def hexValue? (c : Char) : Option Nat :=
  if '0' ≤ c ∧ c ≤ '9' then some (c.toNat - 48)
  else if 'a' ≤ c ∧ c ≤ 'f' then some (c.toNat - 87)
  else if 'A' ≤ c ∧ c ≤ 'F' then some (c.toNat - 55)
  else none

/-- The uppercase hexadecimal digit of a number below sixteen. -/
def upperHexDigit (n : Nat) : Char :=
  if n < 10 then Char.ofNat (48 + n) else Char.ofNat (55 + n)

/-- Bytes written as text, those that `escapes` picks as percent escapes with uppercase
hexadecimal digits. -/
def escapeBytes (escapes : UInt8 → Bool) (bs : List UInt8) : String :=
  String.join <| bs.map fun b =>
    if escapes b then
      "%" ++ String.ofList [upperHexDigit (b.toNat / 16), upperHexDigit (b.toNat % 16)]
    else String.singleton (Char.ofNat b.toNat)

/-- The bytes of a path with percent escapes decoded; a `%` without two hex digits stays. -/
def unescapeBytes : List Char → List UInt8
  | '%' :: a :: b :: rest =>
    match hexValue? a, hexValue? b with
    | some x, some y => (16 * x + y).toUInt8 :: unescapeBytes rest
    | _, _ => '%'.toNat.toUInt8 :: unescapeBytes (a :: b :: rest)
  | c :: rest => String.utf8EncodeChar c ++ unescapeBytes rest
  | [] => []

namespace PathText

/-- A path as written in a request, with its escapes decoded. -/
def ofEscaped (raw : String) : PathText :=
  Text.readUtf8 (unescapeBytes raw.toList)

/-- A path of characters only. -/
def ofText (s : String) : PathText := s.toList.map .char

/-- The text a service sees: each stray byte is read as U+FFFD. -/
def toText (p : PathText) : String :=
  String.ofList (p.map Text.Piece.toChar)

/-- The text of a path that has no stray byte. -/
def text? (p : PathText) : Option String :=
  p.foldr (fun u acc => match u, acc with
    | .char c, some cs => some (c :: cs)
    | _, _ => none) (some []) |>.map String.ofList

/-- The bytes of a path. -/
def bytes (p : PathText) : List UInt8 := Text.pieceBytes p

/-- A path between double quotes, a character as `Text.quote` writes it and a stray byte as
`\xNN`. -/
def quote (p : PathText) : String := Text.quotePieces p

/-- Whether a byte stands for itself in a path. -/
def keptInPath (b : UInt8) : Bool :=
  let c := Char.ofNat b.toNat
  c.isAlphanum || "-_.~$&+,/:;=@".toList.contains c

/-- A path with the bytes that cannot stand in a path written as percent escapes. -/
def escaped (p : PathText) : String := escapeBytes (fun b => !keptInPath b) p.bytes

/-- A path of characters reads back as its text. -/
theorem toText_ofText (s : String) : toText (ofText s) = s := by
  have h : Text.Piece.toChar ∘ Text.Piece.char = id := rfl
  simp [toText, ofText, h]

/-- A path of characters has its text. -/
theorem text?_ofText (s : String) : text? (ofText s) = some s := by
  have h : ∀ cs : List Char, (cs.map Text.Piece.char).foldr (fun u acc => match u, acc with
      | .char c, some cs => some (c :: cs)
      | _, _ => none) (some []) = some cs := by
    intro cs
    induction cs with
    | nil => rfl
    | cons c cs ih => simp [ih]
  simp [text?, ofText, h]

end PathText

end Fulfillment.Http
