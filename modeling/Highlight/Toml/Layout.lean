import Highlight.Text.Signs

/-!
# The layout of TOML

Between the parts of a TOML text there may be blanks, line breaks and comments.
A line break is a line feed, and a carriage return may stand before it and
nowhere else. Control characters other than the tab may not stand anywhere.
-/

namespace Highlight

set_option autoImplicit false

namespace Toml

/-- A blank inside a line. -/
def isBlank (c : Char) : Bool := c == ' ' || c == '\t'

/-- A character that may stand in a line as it is. -/
def isPrinting (c : Char) : Bool := c == '\t' || (' ' ≤ c && c.toNat != 0x7F)

/-- A text with plain line feeds for its line breaks, and without a byte order
mark. -/
def normalize (text : List Char) : List Char :=
  breaks (if text.head? = some byteOrderMark then text.tail else text)
where
  /-- Drops every carriage return before a line feed. -/
  breaks : List Char → List Char
    | [] => []
    | c :: rest => if c = '\r' ∧ rest.head? = some '\n' then breaks rest else c :: breaks rest

/-- The text behind leading blanks. -/
def skipBlanks (text : List Char) : List Char := text.dropWhile isBlank

/-- The text behind the comment it begins with, if it begins with one. -/
def skipComment (text : List Char) : List Char :=
  match text with
  | '#' :: rest => rest.dropWhile isPrinting
  | _ => text

/-- The text behind the end of a line, before which there may be blanks and a
comment. -/
def endLine (text : List Char) : Option (List Char) :=
  match skipComment (skipBlanks text) with
  | [] => some []
  | '\n' :: rest => some rest
  | _ => none

/-- The text behind leading blanks, line breaks and comments. A comment that is
not ended by a line break stays. -/
def skipLines : Nat → List Char → List Char
  | 0, text => text
  | fuel + 1, text =>
      match skipBlanks text with
      | '\n' :: rest => skipLines fuel rest
      | '#' :: rest =>
          match rest.dropWhile isPrinting with
          | '\n' :: rest => skipLines fuel rest
          | _ => '#' :: rest
      | rest => rest

end Toml

end Highlight
