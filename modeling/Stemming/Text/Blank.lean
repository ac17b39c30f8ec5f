import Stemming.Text.CodeRange

set_option autoImplicit false

namespace Stemming.Text

/-- The ranges of the code points with the Unicode property White_Space. -/
def blankRanges : List CodeRange :=
  [(0x9, 0xD), (0x20, 0x20), (0x85, 0x85), (0xA0, 0xA0), (0x1680, 0x1680), (0x2000, 0x200A),
   (0x2028, 0x2029), (0x202F, 0x202F), (0x205F, 0x205F), (0x3000, 0x3000)]

def isBlank (letter : Char) : Bool :=
  inRanges letter.toNat blankRanges

/-- A text without the white space at both of its ends. -/
def trim (letters : List Char) : List Char :=
  ((letters.dropWhile isBlank).reverse.dropWhile isBlank).reverse

end Stemming.Text
