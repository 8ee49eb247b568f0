import Fulfillment.Http.Head
import Fulfillment.Http.Message

/-!
# Request bodies

The body of a request read from its text (see `readRequestHead`) is what follows the empty line
that ends the head, framed as the head says:

* a sized body is its first `n` bytes, and a text shorter than that ends with the fault
  `unexpected EOF`;
* an unsized body runs to the end of the text when the connection closes after the request, and
  is empty otherwise;
* a chunked body is read by `readChunks`: each chunk is a line with its size in hexadecimal
  (blanks after it and anything after a `;` ignored), ended by CR LF, then that many bytes and
  CR LF; a chunk of size zero ends the data, and then either CR LF or trailer lines up to an
  empty line follow. Reading stops at the first fault, with the bytes read so far.

A chunk line must end in CR LF with no other CR in it and fit in 4096 bytes, and the lines of a
body may not hold more than 16 KiB beyond 16 bytes and twice the data of each chunk. The bytes
are read as UTF-8, with a stray byte read as U+FFFD.
-/

namespace Fulfillment.Http

/-- The text of bytes read as UTF-8, each stray byte read as U+FFFD. -/
def bytesText (bs : List UInt8) : String :=
  String.ofList ((Text.readUtf8 bs).map Text.Piece.toChar)

/-- The line at the head of a chunked body without its CR LF, and the bytes after it; or why it
cannot be read: it runs past 4096 bytes, the text ends before its line feed, its line feed has no
CR before it, or a CR stands elsewhere in it. -/
def chunkLine (bs : List UInt8) : Except String (List UInt8 × List UInt8) :=
  match bs.idxOf? 0x0A with
  | some i =>
    if 4096 < i + 1 then .error "header line too long"
    else
      let line := bs.take (i + 1)
      match line.idxOf? 0x0D with
      | none => .error "chunked line ends with bare LF"
      | some j =>
        if j + 2 != line.length then .error "invalid CR in chunked line"
        else .ok (line.take j, bs.drop (i + 1))
  | none => if 4096 ≤ bs.length then .error "header line too long" else .error "unexpected EOF"

/-- The value of a hexadecimal digit byte. -/
def hexByteValue? (b : UInt8) : Option Nat :=
  if isDigitByte b then some (b.toNat - 0x30)
  else if 0x61 ≤ b && b ≤ 0x66 then some (b.toNat - 0x61 + 10)
  else if 0x41 ≤ b && b ≤ 0x46 then some (b.toNat - 0x41 + 10)
  else none

/-- The size a chunk line names in hexadecimal, at most sixteen digits. -/
def chunkSize (digits : List UInt8) : Except String Nat :=
  let rec go : Nat → Nat → List UInt8 → Except String Nat
    | _, n, [] => .ok n
    | i, n, b :: rest =>
      match hexByteValue? b with
      | none => .error "invalid byte in chunk length"
      | some d =>
        if i == 16 then .error "http chunk length too large" else go (i + 1) (n * 16 + d) rest
  if digits.isEmpty then .error "empty hex number for chunk length" else go 0 0 digits

/-- Whether a byte is an ASCII blank: a space, a tab, a line feed or a carriage return. -/
def isBlankByte (b : UInt8) : Bool := b == 0x20 || b == 0x09 || b == 0x0A || b == 0x0D

/-- Whether CR LF CR LF ends within the first 4096 bytes. -/
def doubleBreakAhead (bs : List UInt8) : Bool :=
  (List.range ((min bs.length 4096) + 1)).any fun k =>
    4 ≤ k && (bs.take k).drop (k - 4) == [0x0D, 0x0A, 0x0D, 0x0A]

/-- How a chunked body ends after its last chunk: at once with CR LF, or after trailer lines up
to an empty line, which must read as header lines. -/
def trailerEnd (bs : List UInt8) : BodyEnd :=
  match bs with
  | 0x0D :: 0x0A :: _ => .clean
  | _ =>
    if bs.length < 2 then .fault "http: unexpected EOF reading trailer"
    else if !doubleBreakAhead bs then .fault "http: suspiciously long trailer after chunked body"
    else
      let cs := (bytesText bs).toList
      match readHeaders (linesToBlank cs.length cs).1 with
      | .error e => .fault e
      | .ok _ => .clean

/-- Reads the chunks of a chunked body: `excess` is the line overhead counted so far and `data`
the bytes read. Each round reads a line and so takes at least one byte. -/
def readChunks : Nat → Int → List UInt8 → List UInt8 → List UInt8 × BodyEnd
  | 0, _, data, _ => (data, .fault "unexpected EOF")
  | fuel + 1, excess, data, bs =>
    match chunkLine bs with
    | .error e => (data, .fault e)
    | .ok (line, rest) =>
      let digits := ((line.reverse.dropWhile isBlankByte).reverse).takeWhile (· != 0x3B)
      match chunkSize digits with
      | .error e => (data, .fault e)
      | .ok n =>
        let excess := max 0 (wrapInt64 (excess + line.length + 2 -
          wrapInt64 (16 + wrapInt64 (2 * wrapInt64 n))))
        if n == 0 then (data, trailerEnd rest)
        else if 16 * 1024 < excess then
          (data, .fault "chunked encoding contains too much non-data")
        else if rest.length < n then (data ++ rest, .fault "unexpected EOF")
        else
          let data := data ++ rest.take n
          match rest.drop n with
          | 0x0D :: 0x0A :: more => readChunks fuel excess data more
          | [] | [_] => (data, .fault "unexpected EOF")
          | _ => (data, .fault "malformed chunked encoding")

/-- The body a request head frames in the text after it. -/
def RequestHead.payload (h : RequestHead) : Payload :=
  let bs := h.rest.flatMap String.utf8EncodeChar
  match h.framing with
  | .empty => ⟨"", .clean, 0⟩
  | .sized n =>
    ⟨bytesText (bs.take n), if bs.length < n then .fault "unexpected EOF" else .clean, n⟩
  | .chunked =>
    let (data, ending) := readChunks (bs.length + 1) 0 [] bs
    ⟨bytesText data, ending, -1⟩
  | .unsized closing => ⟨if closing then bytesText bs else "", .clean, -1⟩

end Fulfillment.Http
