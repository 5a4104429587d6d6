import Highlight.Number.Digits

/-!
# Tables of characters

A property of characters is given by the stretches of code points that have
it. The stretches of a table ascend, so the first stretch that does not end
before a code point decides about it.

Long tables are written as text, one stretch in hexadecimal after another, and
read once (`CharTable.ofText`).
-/

namespace Highlight

set_option autoImplicit false

/-- Ascending stretches of code points, each given by its first and its last. -/
abbrev CharTable := List (Nat × Nat)

namespace CharTable

/-- Whether a code point lies in one of the stretches. -/
def contains : CharTable → Nat → Bool
  | [], _ => false
  | (first, last) :: rest, code =>
      if code < first then false else if code ≤ last then true else contains rest code

/-- Reads stretches such as `41-5A` and single code points such as `AA`,
separated by blanks. `first` holds the part before a hyphen. -/
def readStretches : List Char → Option Nat → Nat → Bool → CharTable
  | [], first, value, started => if started then [(first.getD value, value)] else []
  | c :: rest, first, value, started =>
      if c = '-' then readStretches rest (some value) 0 started
      else if c = ' ' ∨ c = '\n' then
        if started then (first.getD value, value) :: readStretches rest none 0 false
        else readStretches rest none 0 false
      else readStretches rest first (16 * value + (hexValue? c).getD 0) true

/-- The table written in a text. -/
def ofText (text : String) : CharTable := readStretches text.toList none 0 false

end CharTable

end Highlight
