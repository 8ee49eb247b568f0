/-!
# Blank characters

A blank is a character with the Unicode White_Space property: the ASCII controls from tab to
carriage return, the space, next line, no-break space, ogham space mark, the spaces from
en quad to hair space, the line and paragraph separators, narrow no-break space, medium
mathematical space and ideographic space. Zero-width space and the byte order mark are not
blanks.

`trim` drops blanks from both ends of a text; `isBlankText` holds of a text made of blanks only.
-/

namespace Fulfillment.Text

/-- Whether a character has the Unicode White_Space property. -/
def isBlank (c : Char) : Bool :=
  let n := c.toNat
  (0x09 ≤ n && n ≤ 0x0D) || n == 0x20 || n == 0x85 || n == 0xA0 || n == 0x1680 ||
    (0x2000 ≤ n && n ≤ 0x200A) || n == 0x2028 || n == 0x2029 || n == 0x202F ||
    n == 0x205F || n == 0x3000

/-- Drops the blanks at both ends of a list of characters. -/
def trimChars (cs : List Char) : List Char :=
  ((cs.dropWhile isBlank).reverse.dropWhile isBlank).reverse

/-- Drops the blanks at both ends of a text. -/
def trim (s : String) : String :=
  String.ofList (trimChars s.toList)

/-- Whether a text is empty once its blanks are dropped. -/
def isBlankText (s : String) : Bool :=
  s.toList.all isBlank

end Fulfillment.Text
