import LexicalRules.Text.Ranges

/-! # White space

`isBlank` is the Unicode property White_Space. Tabs, line breaks and all spaces that leave a gap belong
to it; the information separators U+001C to U+001F and the spaces of no width do not.
-/

namespace LexicalRules.Text
set_option autoImplicit false

/-- The code points with the property White_Space. -/
def blankRanges : CodeRanges :=
  [(0x9, 0xd), (0x20, 0x20), (0x85, 0x85), (0xa0, 0xa0), (0x1680, 0x1680), (0x2000, 0x200a),
   (0x2028, 0x2029), (0x202f, 0x202f), (0x205f, 0x205f), (0x3000, 0x3000)]

def isBlank (c : Char) : Bool :=
  blankRanges.has c.toNat

def isBlankText (s : String) : Bool :=
  s.toList.all isBlank

end LexicalRules.Text
