import Highlight.Text.CharTable

/-!
# White space

Spaces, tabs and line breaks of all kinds. Unlike the blanks of programming
languages the set reaches beyond ASCII: it has the no-break space, the
ideographic space and the line and paragraph separators.
-/

namespace Highlight

set_option autoImplicit false

/-- The stretches of white space. -/
def whiteSpaces : CharTable := [
  (0x9, 0xD), (0x20, 0x20), (0x85, 0x85), (0xA0, 0xA0), (0x1680, 0x1680), (0x2000, 0x200A),
  (0x2028, 0x2029), (0x202F, 0x202F), (0x205F, 0x205F), (0x3000, 0x3000)]

/-- Whether a character is white space. -/
def isWhiteSpace (c : Char) : Bool := whiteSpaces.contains c.toNat

end Highlight
