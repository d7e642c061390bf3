/-
# Outbound.Text.Blank — the characters that trimming removes

A character is blank when it is one of the white-space characters of Unicode or
one of the four information separators U+001C to U+001F.  The zero-width space
U+200B and the byte-order mark U+FEFF are not blank.
-/
import Outbound.Text.CodeRange

namespace Outbound.Text

set_option autoImplicit false

def blankRanges : CodeRanges :=
  [(0x9, 0xD), (0x1C, 0x20), (0x85, 0x85), (0xA0, 0xA0), (0x1680, 0x1680), (0x2000, 0x200A),
    (0x2028, 0x2029), (0x202F, 0x202F), (0x205F, 0x205F), (0x3000, 0x3000)]

def isBlank (c : Char) : Bool := blankRanges.contains c.toNat

def trimWhile (p : Char → Bool) (s : List Char) : List Char :=
  ((s.dropWhile p).reverse.dropWhile p).reverse

def trim (s : List Char) : List Char := trimWhile isBlank s

end Outbound.Text
