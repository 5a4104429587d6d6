import Highlight.Text.Span

/-!
# Byte offsets

In UTF-8 a character takes from one to four bytes. A place in a text can be given
by the number of bytes before it instead of the number of characters.
-/

namespace Highlight

set_option autoImplicit false

/-- How many bytes some characters take. -/
def byteCount : List Char → Nat
  | [] => 0
  | c :: rest => c.utf8Size + byteCount rest

/-- How many bytes stand before a place. -/
def byteOffset (text : Array Char) (place : Nat) : Nat := byteCount (text.toList.take place)

/-- The first place with at least that many bytes before it, counted from a
place that has been come to already. -/
def placeFrom (place : Nat) : Nat → List Char → Option Nat
  | 0, _ => some place
  | _ + 1, [] => none
  | offset + 1, c :: rest => placeFrom (place + 1) (offset + 1 - c.utf8Size) rest

/-- The place with a number of bytes before it; there is none past the end. -/
def placeOfByteOffset? (text : Array Char) (offset : Nat) : Option Nat :=
  placeFrom 0 offset text.toList

end Highlight
