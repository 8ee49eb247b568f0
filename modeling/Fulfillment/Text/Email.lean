import Fulfillment.Text.Pattern

/-!
# E-mail addresses

An e-mail address, as the request rules accept it, is a local part, `@` and a domain.

* The local part is a dot-atom (runs of atom characters joined by single dots) or a quoted
  string: a double quote, quoted characters each optionally preceded by folding white space,
  optional folding white space, and a closing double quote.
* The domain is one or more labels, each followed by a dot, then a top-level label and an
  optional final dot. A label starts and ends with a letter or digit and may hold `-`, `.` and
  `~` inside; a top-level label starts and ends with a letter.

Besides ASCII, the characters U+00A0 to U+D7FF, U+F900 to U+FDCF and U+FDF0 to U+FFEF count as
letters everywhere. Characters beyond U+FFFF never do.
-/

namespace Fulfillment.Text.Email

open Pattern

/-- The wide characters that count as letters. -/
def wide : List (Nat × Nat) := [(0xA0, 0xD7FF), (0xF900, 0xFDCF), (0xFDF0, 0xFFEF)]

/-- ASCII letters. -/
def letters : List (Nat × Nat) := [(0x41, 0x5A), (0x61, 0x7A)]

/-- ASCII digits. -/
def digits : List (Nat × Nat) := [(0x30, 0x39)]

/-- The ASCII punctuation allowed in an atom: ``! # $ % & ' * + - / = ? ^ _ ` { | } ~``. -/
def atomMarks : List Nat :=
  [0x21, 0x23, 0x24, 0x25, 0x26, 0x27, 0x2A, 0x2B, 0x2D, 0x2F, 0x3D, 0x3F, 0x5E, 0x5F, 0x60,
   0x7B, 0x7C, 0x7D, 0x7E]

/-- One character of an atom. -/
def atomChar : Pattern := chars (letters ++ digits ++ atomMarks.map (fun n => (n, n)) ++ wide)

/-- Runs of atom characters joined by single dots. -/
def dotAtom : Pattern := seq (plus atomChar) (star (seq (char '.') (plus atomChar)))

/-- A space or a tab. -/
def space : Pattern := chars [(0x20, 0x20), (0x09, 0x09)]

/-- Folding white space: optionally blanks and a line break, then at least one blank. -/
def folding : Pattern := seq (opt (seqs [star space, char '\r', char '\n'])) (plus space)

/-- A character that stands for itself inside quotes. -/
def quotedText : Pattern :=
  chars ([(0x01, 0x08), (0x0B, 0x0C), (0x0E, 0x1F), (0x7F, 0x7F), (0x21, 0x21), (0x23, 0x5B),
    (0x5D, 0x7E)] ++ wide)

/-- Any other character allowed inside quotes. -/
def quotedOther : Pattern := chars ([(0x01, 0x09), (0x0B, 0x0C), (0x0D, 0x7F)] ++ wide)

/-- A quoted local part. -/
def quoted : Pattern :=
  seqs [char '"', star (seq (opt folding) (alt quotedText quotedOther)), opt folding, char '"']

/-- A letter or digit of a domain. -/
def alnum : Pattern := chars (letters ++ digits ++ wide)

/-- A letter of a domain. -/
def alpha : Pattern := chars (letters ++ wide)

/-- A character inside a domain label. -/
def inner : Pattern := chars (letters ++ digits ++ [(0x2D, 0x2E), (0x7E, 0x7E)] ++ wide)

/-- A label that starts and ends with `edge`. -/
def label (edge : Pattern) : Pattern := alt edge (seqs [edge, star inner, edge])

/-- A domain: labels each followed by a dot, a top-level label, an optional final dot. -/
def domain : Pattern :=
  seqs [plus (seq (label alnum) (char '.')), label alpha, opt (char '.')]

/-- A whole e-mail address. -/
def address : Pattern := seqs [alt dotAtom quoted, char '@', domain]

end Fulfillment.Text.Email

namespace Fulfillment.Text

/-- Whether a text is an e-mail address. -/
def isEmail (s : String) : Bool := Email.address.accepts s

end Fulfillment.Text
