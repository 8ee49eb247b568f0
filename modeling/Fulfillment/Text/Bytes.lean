import Fulfillment.Text.Blank
import Fulfillment.Text.Case
import Fulfillment.Text.Utf8

/-!
# Byte strings

The text a service is handed is a string of bytes, which need not be UTF-8. Where it has to be
read as characters it is read as `Text.readUtf8` reads it, each stray byte as U+FFFD
(`Bytes.chars`). On that reading:

* `trim` drops the blank characters at both ends and keeps every other byte as it was, a stray
  byte included;
* `lower` lowers every character by the simple mapping and writes the result as UTF-8, so a
  stray byte becomes U+FFFD;
* `foldEq` compares the characters up to simple case folding, so a stray byte matches U+FFFD
  and any other stray byte;
* `toText` is the text the bytes are shown as.
-/

namespace Fulfillment

/-- A string of bytes. -/
structure Bytes where
  toList : List UInt8
  deriving DecidableEq, Inhabited, Repr

namespace Bytes

/-- The UTF-8 bytes of a text. -/
def ofText (s : String) : Bytes := ⟨s.toList.flatMap String.utf8EncodeChar⟩

/-- The characters of the bytes, each stray byte read as U+FFFD. -/
def chars (b : Bytes) : List Char := (Text.readUtf8 b.toList).map Text.Piece.toChar

/-- The text the bytes are shown as. -/
def toText (b : Bytes) : String := String.ofList b.chars

def isEmpty (b : Bytes) : Bool := b.toList.isEmpty

/-- Whether a piece is a blank character; a stray byte is not. -/
def blankPiece : Text.Piece → Bool
  | .char c => Text.isBlank c
  | .stray _ => false

/-- The bytes with the blank characters at both ends dropped. -/
def trim (b : Bytes) : Bytes :=
  ⟨Text.pieceBytes
    (((Text.readUtf8 b.toList).dropWhile blankPiece).reverse.dropWhile blankPiece).reverse⟩

/-- Every character lowered by the simple mapping, written as UTF-8. -/
def lower (b : Bytes) : Bytes :=
  ⟨b.chars.flatMap fun c => String.utf8EncodeChar (Text.toLower c)⟩

/-- Equality up to simple case folding, each stray byte read as U+FFFD. -/
def foldEq (a b : Bytes) : Bool := a.chars.map Text.fold == b.chars.map Text.fold

theorem foldEq_iff {a b : Bytes} : foldEq a b = true ↔ a.chars.map Text.fold = b.chars.map Text.fold := by
  simp [foldEq]

theorem foldEq_comm (a b : Bytes) : foldEq a b = foldEq b a :=
  Bool.eq_iff_iff.mpr ⟨fun h => foldEq_iff.mpr (foldEq_iff.mp h).symm,
    fun h => foldEq_iff.mpr (foldEq_iff.mp h).symm⟩

/-- Equality up to case folding is transitive, stray bytes included: both sides fold to the same
characters. -/
theorem foldEq_trans {a b c : Bytes} (hab : foldEq a b = true) (hbc : foldEq b c = true) :
    foldEq a c = true :=
  foldEq_iff.mpr ((foldEq_iff.mp hab).trans (foldEq_iff.mp hbc))

end Bytes

end Fulfillment
