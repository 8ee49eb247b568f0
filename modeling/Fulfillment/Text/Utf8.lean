import Fulfillment.Text.Quoted

/-!
# Bytes read as UTF-8

A string of bytes need not be UTF-8. `readUtf8` reads it as `Piece`s: a well-formed UTF-8
sequence is the character it encodes, and a byte that starts no well-formed sequence is a stray
byte of its own, after which reading goes on with the next byte. A sequence is well formed when
it is not overlong, encodes no surrogate and nothing above U+10FFFF, and is not cut short, so a
sequence cut short gives one stray byte for each of its bytes.

`quotePieces` writes pieces between double quotes the way `quote` writes a text, with a stray
byte as `\xNN`, and `pieceBytes` gives the bytes back.
-/

namespace Fulfillment.Text

/-- A piece of a byte string read as UTF-8: a character, or a byte that starts no character. -/
inductive Piece where
  | char (c : Char)
  | stray (b : UInt8)
  deriving DecidableEq, Inhabited

/-- The character a piece reads as: itself, or U+FFFD for a stray byte. -/
def Piece.toChar : Piece → Char
  | .char c => c
  | .stray _ => Char.ofNat 0xFFFD

/-- Whether a byte continues a UTF-8 sequence. -/
def isContinuation (b : UInt8) : Bool := 0x80 ≤ b && b < 0xC0

/-- The character that a well-formed UTF-8 sequence at the head of the bytes encodes, and the
length of the sequence. -/
def readChar? : List UInt8 → Option (Char × Nat)
  | [] => none
  | b :: rest =>
    if b < 0x80 then some (Char.ofNat b.toNat, 1)
    else if 0xC2 ≤ b && b ≤ 0xDF then
      match rest with
      | c :: _ =>
        if isContinuation c then some (Char.ofNat ((b.toNat - 0xC0) * 64 + (c.toNat - 0x80)), 2)
        else none
      | [] => none
    else if 0xE0 ≤ b && b ≤ 0xEF then
      let lo : UInt8 := if b == 0xE0 then 0xA0 else 0x80
      let hi : UInt8 := if b == 0xED then 0x9F else 0xBF
      match rest with
      | c1 :: c2 :: _ =>
        if lo ≤ c1 && c1 ≤ hi && isContinuation c2 then
          some (Char.ofNat ((b.toNat - 0xE0) * 4096 + (c1.toNat - 0x80) * 64 + (c2.toNat - 0x80)),
            3)
        else none
      | _ => none
    else if 0xF0 ≤ b && b ≤ 0xF4 then
      let lo : UInt8 := if b == 0xF0 then 0x90 else 0x80
      let hi : UInt8 := if b == 0xF4 then 0x8F else 0xBF
      match rest with
      | c1 :: c2 :: c3 :: _ =>
        if lo ≤ c1 && c1 ≤ hi && isContinuation c2 && isContinuation c3 then
          some (Char.ofNat ((b.toNat - 0xF0) * 262144 + (c1.toNat - 0x80) * 4096 +
            (c2.toNat - 0x80) * 64 + (c3.toNat - 0x80)), 4)
        else none
      | _ => none
    else none

/-- Reads bytes into pieces. Each step takes at least one byte, so the number of bytes bounds
the steps. -/
def readPieces : Nat → List UInt8 → List Piece
  | 0, _ => []
  | _, [] => []
  | fuel + 1, b :: rest =>
    match readChar? (b :: rest) with
    | some (c, n) => .char c :: readPieces fuel ((b :: rest).drop n)
    | none => .stray b :: readPieces fuel rest

/-- A byte string read as UTF-8. -/
def readUtf8 (bytes : List UInt8) : List Piece := readPieces bytes.length bytes

/-- The bytes of pieces. -/
def pieceBytes (ps : List Piece) : List UInt8 :=
  ps.flatMap fun p => match p with
    | .char c => String.utf8EncodeChar c
    | .stray b => [b]

/-- Pieces between double quotes: a character as `quote` writes it, a stray byte as `\xNN`. -/
def quotePieces (ps : List Piece) : String :=
  String.ofList ('"' :: ps.flatMap (fun p => match p with
    | .char c => quotedChar '"' c
    | .stray b => '\\' :: 'x' :: hexDigits 2 b.toNat) ++ ['"'])

/-- An ASCII byte is read as its character. -/
theorem readChar?_ascii {b : UInt8} (h : b < 0x80) (rest : List UInt8) :
    readChar? (b :: rest) = some (Char.ofNat b.toNat, 1) := by
  simp [readChar?, h]

end Fulfillment.Text
