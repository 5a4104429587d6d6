/-!
# Signs

The signs that are awkward to write in place.
-/

namespace Highlight

set_option autoImplicit false

/-- The opening brace. -/
def openBrace : Char := Char.ofNat 0x7B

/-- The closing brace. -/
def closeBrace : Char := Char.ofNat 0x7D

/-- The backtick. -/
def backtick : Char := Char.ofNat 0x60

/-- The escape character, with which control sequences of terminals begin. -/
def escapeSign : Char := Char.ofNat 0x1B

/-- The mark that may stand at the beginning of a file to tell its byte order. -/
def byteOrderMark : Char := Char.ofNat 0xFEFF

end Highlight
