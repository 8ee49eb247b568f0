/-!
# Patterns

A `Pattern` is a regular expression over characters: nothing, the empty text, one character from
a set of code point ranges, a sequence, an alternative, or a repetition. `Pattern.accepts` decides
whether a whole text matches by taking the derivative of the pattern by each character in turn
and asking whether what is left accepts the empty text.

The smart constructors keep derivatives small: a sequence with nothing in it is nothing, the
empty text is dropped from sequences, and alternatives are flattened with repeats and nothing
removed, so a pattern has finitely many derivatives up to these rules.
-/

namespace Fulfillment.Text

/-- A regular expression over characters. -/
inductive Pattern where
  | none
  | empty
  | chars (ranges : List (Nat × Nat))
  | seq (a b : Pattern)
  | alt (a b : Pattern)
  | star (a : Pattern)
  deriving DecidableEq, Inhabited, Repr

namespace Pattern

/-- Whether a pattern accepts the empty text. -/
def nullable : Pattern → Bool
  | none => false
  | empty => true
  | chars _ => false
  | seq a b => a.nullable && b.nullable
  | alt a b => a.nullable || b.nullable
  | star _ => true

/-- A sequence, with nothing and the empty text simplified away. -/
def mkSeq (a b : Pattern) : Pattern :=
  match a, b with
  | none, _ => none
  | _, none => none
  | empty, b => b
  | a, empty => a
  | a, b => seq a b

/-- The alternatives of a pattern, flattened. -/
def branches : Pattern → List Pattern
  | alt a b => a.branches ++ b.branches
  | none => []
  | p => [p]

/-- An alternative of several patterns. -/
def ofBranches : List Pattern → Pattern
  | [] => none
  | [p] => p
  | p :: ps => alt p (ofBranches ps)

/-- An alternative, flattened, without repeats or nothing. -/
def mkAlt (a b : Pattern) : Pattern :=
  ofBranches (a.branches ++ b.branches).eraseDups

/-- Whether a character lies in one of the ranges. -/
def inRanges (ranges : List (Nat × Nat)) (c : Char) : Bool :=
  ranges.any fun (lo, hi) => lo ≤ c.toNat && c.toNat ≤ hi

/-- The derivative of a pattern by a character: what the rest of a text must match. -/
def deriv (c : Char) : Pattern → Pattern
  | none => none
  | empty => none
  | chars rs => if inRanges rs c then empty else none
  | seq a b =>
    if a.nullable then mkAlt (mkSeq (deriv c a) b) (deriv c b) else mkSeq (deriv c a) b
  | alt a b => mkAlt (deriv c a) (deriv c b)
  | star a => mkSeq (deriv c a) (star a)

/-- Whether a whole text matches a pattern. -/
def accepts (p : Pattern) (s : String) : Bool :=
  (s.toList.foldl (fun q c => deriv c q) p).nullable

/-- One character. -/
def char (c : Char) : Pattern := chars [(c.toNat, c.toNat)]

/-- Any one of the characters of a text. -/
def anyOf (s : String) : Pattern := chars (s.toList.map fun c => (c.toNat, c.toNat))

/-- One or more repetitions. -/
def plus (a : Pattern) : Pattern := seq a (star a)

/-- Zero or one occurrence. -/
def opt (a : Pattern) : Pattern := alt empty a

/-- A sequence of several patterns. -/
def seqs : List Pattern → Pattern
  | [] => empty
  | [p] => p
  | p :: ps => seq p (seqs ps)

/-- An alternative of several patterns. -/
def alts : List Pattern → Pattern
  | [] => none
  | [p] => p
  | p :: ps => alt p (alts ps)

end Pattern

end Fulfillment.Text
