import Fulfillment.Text.Printable

/-!
# Quoted texts

`quote` writes a text between double quotes so that it reads back unchanged: a quote or a
backslash gets a backslash, a printable character stands for itself, the seven control
characters with letter escapes use them (`\a \b \f \n \r \t \v`), other characters below the
space and DEL become `\xNN`, and the remaining non-printable characters become `\uNNNN` or
`\UNNNNNNNN`, in lowercase hexadecimal.

`quoteChar` writes one character between single quotes in the same way, and `quoteBytes` is the
plainer form that writes every byte outside printable ASCII as `\xNN`.
-/

namespace Fulfillment.Text

/-- The lowercase hexadecimal digit of a number below sixteen. -/
def hexDigit (n : Nat) : Char :=
  if n < 10 then Char.ofNat (48 + n) else Char.ofNat (87 + n)

/-- The lowest `width` hexadecimal digits of a number, most significant first. -/
def hexDigits : Nat → Nat → List Char
  | 0, _ => []
  | width + 1, n => hexDigits width (n / 16) ++ [hexDigit (n % 16)]

/-- The escape that stands for a character which is not printed as itself. -/
def escapeOf (c : Char) : List Char :=
  match c with
  | '\x07' => ['\\', 'a']
  | '\x08' => ['\\', 'b']
  | '\x0c' => ['\\', 'f']
  | '\n' => ['\\', 'n']
  | '\r' => ['\\', 'r']
  | '\t' => ['\\', 't']
  | '\x0b' => ['\\', 'v']
  | _ =>
    let n := c.toNat
    if n < 0x20 ∨ n = 0x7F then '\\' :: 'x' :: hexDigits 2 n
    else if n < 0x10000 then '\\' :: 'u' :: hexDigits 4 n
    else '\\' :: 'U' :: hexDigits 8 n

/-- One character inside a quoted text whose delimiter is `delim`. -/
def quotedChar (delim c : Char) : List Char :=
  if c = delim ∨ c = '\\' then ['\\', c]
  else if isPrintable c then [c]
  else escapeOf c

/-- A text between double quotes, escaped so that it reads back unchanged. -/
def quote (s : String) : String :=
  String.ofList ('"' :: (s.toList.flatMap (quotedChar '"')) ++ ['"'])

/-- A character between single quotes. -/
def quoteChar (c : Char) : String :=
  if c = '\'' then "'\\''"
  else if c = '"' then "'\"'"
  else String.ofList ('\'' :: quotedChar '"' c ++ ['\''])

/-- A text between double quotes where every byte outside printable ASCII is `\xNN`. -/
def quoteBytes (s : String) : String :=
  let body := s.toList.flatMap fun c =>
    if c.toNat < 0x20 ∨ 0x80 ≤ c.toNat then
      (String.utf8EncodeChar c).flatMap fun b => '\\' :: 'x' :: hexDigits 2 b.toNat
    else if c = '"' ∨ c = '\\' then ['\\', c]
    else [c]
  String.ofList ('"' :: body ++ ['"'])

end Fulfillment.Text
