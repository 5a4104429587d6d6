import Highlight.Number.Digits
import Highlight.Toml.Layout

/-!
# TOML strings

A string is written in one of four forms. Between double quotes a backslash
begins an escape, between single quotes every character stands for itself.
Between three quotes of a kind there may be line breaks; one right behind the
opening quotes does not count, and up to two quotes may stand before the closing
ones. Where escapes are known, a backslash at the end of a line joins it to the
next character that is neither a blank nor a line break.

In writing, the first form is taken that needs no escape; only a text that needs
one in each of them is written with escapes.
-/

namespace Highlight

set_option autoImplicit false

namespace Toml

/-! ## Forms -/

/-- How a string is written. -/
inductive Form where
  | basic
  | literal
  | basicLines
  | literalLines
deriving DecidableEq

namespace Form

/-- The kind of quote around a string. -/
def quote : Form → Char
  | basic | basicLines => '"'
  | literal | literalLines => '\''

/-- Whether a backslash begins an escape. -/
def hasEscapes : Form → Bool
  | basic | basicLines => true
  | literal | literalLines => false

/-- Whether there may be line breaks. -/
def hasLines : Form → Bool
  | basicLines | literalLines => true
  | basic | literal => false

/-- The quotes at either end of a string. -/
def fence (form : Form) : List Char :=
  List.replicate (if form.hasLines then 3 else 1) form.quote

end Form

/-! ## Writing -/

/-- The greatest number of times that a character stands in a row, when it has
stood a number of times just before. -/
def longestRow (c : Char) : Nat → List Char → Nat
  | before, [] => before
  | before, d :: rest =>
      if d = c then longestRow c (before + 1) rest else max before (longestRow c 0 rest)

/-- A control character that can only be written as an escape. -/
def isControl (c : Char) : Bool := !isPrinting c && c != '\n'

/-- Whether a text can be written in a form without escapes. -/
def Form.suits (form : Form) (text : List Char) : Bool :=
  !text.any isControl && !(form.hasEscapes && text.contains '\\') &&
    (form.hasLines || !text.contains '\n') &&
      decide (longestRow form.quote 0 text < form.fence.length)

/-- The form in which a text is written. -/
def Form.of (text : List Char) : Form :=
  if basic.suits text then basic
  else if literal.suits text then literal
  else if basicLines.suits text then basicLines
  else if literalLines.suits text then literalLines
  else if text.contains '\n' then basicLines
  else basic

/-- A character that is not a quote, as it stands between double quotes. -/
def escape (form : Form) (c : Char) : List Char :=
  if c = '\\' then ['\\', '\\']
  else if c = '\t' then ['\\', 't']
  else if c = '\n' ∧ form.hasLines then ['\n']
  else if c = '\n' then ['\\', 'n']
  else if c = '\r' then ['\\', 'r']
  else if c.toNat = 0x08 then ['\\', 'b']
  else if c.toNat = 0x0C then ['\\', 'f']
  else if isControl c then
    ['\\', 'u', '0', '0', capitalHexDigit (c.toNat / 16), capitalHexDigit (c.toNat % 16)]
  else [c]

/-- Some characters as they stand between double quotes, of which a number has
been written just before. A quote is escaped if as many as the fence has would
stand in a row. -/
def escapeAll (form : Form) : Nat → List Char → List Char
  | _, [] => []
  | before, c :: rest =>
      if c = '"' then
        if before + 1 = form.fence.length then '\\' :: '"' :: escapeAll form 0 rest
        else '"' :: escapeAll form (before + 1) rest
      else escape form c ++ escapeAll form 0 rest

/-- A string in a form. -/
def writeIn (form : Form) (text : List Char) : List Char :=
  form.fence ++ (if form.hasLines && text.contains '\n' then ['\n'] else []) ++
    (if form.hasEscapes then escapeAll form 0 text else text) ++ form.fence

/-- A string. -/
def writeText (text : List Char) : List Char := writeIn (.of text) text

/-! ## Reading -/

/-- The character that a letter stands for behind a backslash. -/
def unescape? (c : Char) : Option Char :=
  if c = '"' ∨ c = '\\' then some c
  else if c = 'b' then some (Char.ofNat 0x08)
  else if c = 't' then some '\t'
  else if c = 'n' then some '\n'
  else if c = 'f' then some (Char.ofNat 0x0C)
  else if c = 'r' then some '\r'
  else none

/-- How many hexadecimal digits follow a letter behind a backslash. -/
def escapeDigits? (c : Char) : Option Nat :=
  if c = 'u' then some 4 else if c = 'U' then some 8 else none

/-- What has been read just before a place between the quotes. -/
inductive Before where
  /-- Characters that stand for themselves, or a complete escape. -/
  | text
  /-- A backslash. -/
  | backslash
  /-- An escape of which some hexadecimal digits, at least one, are missing. -/
  | digits (missing value : Nat)
  /-- A backslash and blanks. -/
  | blanks
  /-- A backslash and the end of its line. -/
  | joint

/-- Whether a character is passed over, as blanks and line breaks are behind a
joint. -/
def Before.skips (before : Before) (c : Char) : Bool :=
  match before with
  | joint => isBlank c || c == '\n'
  | _ => false

/-- How many quotes a text begins with. -/
def leadingQuotes (quote : Char) (text : List Char) : Nat := (text.takeWhile (· == quote)).length

/-- The end of a string at a quote: the quotes that still belong to it, and the
text behind. -/
def close? (form : Form) (text : List Char) : Option (List Char × List Char) :=
  if form.hasLines then
    let count := min 5 (leadingQuotes form.quote text)
    if count < 3 then none
    else some (List.replicate (count - 3) form.quote, text.drop count)
  else some ([], text.tail)

/-- Reads a string between its quotes, and the closing quotes. -/
def readBody (form : Form) : Before → List Char → Option (List Char × List Char)
  | _, [] => none
  | .backslash, c :: rest =>
      match unescape? c, escapeDigits? c with
      | some made, _ => (readBody form .text rest).map fun (s, after) => (made :: s, after)
      | none, some count => readBody form (.digits count 0) rest
      | none, none =>
          if form.hasLines && isBlank c then readBody form .blanks rest
          else if form.hasLines && c == '\n' then readBody form .joint rest
          else none
  | .digits missing value, c :: rest =>
      match hexValue? c with
      | none => none
      | some digit =>
          let value := 16 * value + digit
          if missing = 1 then
            if value.isValidChar then
              (readBody form .text rest).map fun (s, after) => (Char.ofNat value :: s, after)
            else none
          else readBody form (.digits (missing - 1) value) rest
  | .blanks, c :: rest =>
      if isBlank c then readBody form .blanks rest
      else if c = '\n' then readBody form .joint rest
      else none
  | before, c :: rest =>
      if before.skips c then readBody form before rest
      else if c = form.quote then
        match close? form (c :: rest) with
        | some found => some found
        | none => (readBody form .text rest).map fun (s, after) => (c :: s, after)
      else if form.hasEscapes && c == '\\' then readBody form .backslash rest
      else if isPrinting c || (form.hasLines && c == '\n') then
        (readBody form .text rest).map fun (s, after) => (c :: s, after)
      else none

/-- Reads a string in a form behind its opening quotes. -/
def readIn (form : Form) (text : List Char) : Option (String × List Char) :=
  let body := if form.hasLines && text.head? == some '\n' then text.tail else text
  (readBody form .text body).map fun (s, after) => (String.ofList s, after)

/-- Reads a string on one line. -/
def readShort (text : List Char) : Option (String × List Char) :=
  match text with
  | '"' :: rest => readIn .basic rest
  | '\'' :: rest => readIn .literal rest
  | _ => none

/-- Reads a string. -/
def readText (text : List Char) : Option (String × List Char) :=
  match text with
  | '"' :: '"' :: '"' :: rest => readIn .basicLines rest
  | '\'' :: '\'' :: '\'' :: rest => readIn .literalLines rest
  | _ => readShort text

end Toml

end Highlight
