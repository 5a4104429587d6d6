import Highlight.Json.Value
import Highlight.Number.Digits
import Highlight.Text.ByteOffset
import Highlight.Text.Signs

/-!
# JSON strings

In writing only what must be escaped is escaped: the quote, the backslash and
the control characters of ASCII, those with a letter of their own by it and the
others by four hexadecimal digits in small letters.

In reading, four digits stand for a unit of UTF-16. Two of them make one
character where the first is a leading and the second a trailing surrogate; a
surrogate in any other place makes the text malformed.
-/

namespace Highlight

set_option autoImplicit false

namespace Json

/-! ## Writing -/

/-- A character as it stands in a string. -/
def escape (c : Char) : List Char :=
  if c = '"' then ['\\', '"']
  else if c = '\\' then ['\\', '\\']
  else if c = '\n' then ['\\', 'n']
  else if c = '\r' then ['\\', 'r']
  else if c = '\t' then ['\\', 't']
  else if c.toNat = 0x08 then ['\\', 'b']
  else if c.toNat = 0x0C then ['\\', 'f']
  else if c.toNat < 0x20 then
    ['\\', 'u', '0', '0', smallHexDigit (c.toNat / 16), smallHexDigit (c.toNat % 16)]
  else [c]

/-- A string with its quotes. -/
def quote (text : String) : List Char := '"' :: text.toList.flatMap escape ++ ['"']

/-! ## Reading -/

/-- Reads a unit in four digits. -/
def readUnit (text : List Char) : Except JsonError (Nat × List Char) :=
  if byteCount (text.take 4) < 4 then .error .cutShort
  else
    match text with
    | a :: b :: c :: d :: rest =>
        match hexValue? a, hexValue? b, hexValue? c, hexValue? d with
        | some a, some b, some c, some d => .ok (4096 * a + 256 * b + 16 * c + d, rest)
        | _, _, _, _ => .error .malformed
    | _ => .error .malformed

/-- Reads a character in one unit, or in two. -/
def readUnits (text : List Char) : Except JsonError (Char × List Char) := do
  let (first, rest) ← readUnit text
  if 0xDC00 ≤ first ∧ first ≤ 0xDFFF then .error .malformed
  else if 0xD800 ≤ first ∧ first ≤ 0xDBFF then
    match rest with
    | [] => .error .cutShort
    | ['\\'] => .error .cutShort
    | '\\' :: 'u' :: rest =>
        let (second, rest) ← readUnit rest
        if 0xDC00 ≤ second ∧ second ≤ 0xDFFF then
          .ok (Char.ofNat (0x10000 + 1024 * (first - 0xD800) + (second - 0xDC00)), rest)
        else .error .malformed
    | _ => .error .malformed
  else .ok (Char.ofNat first, rest)

/-- The character a letter stands for after a backslash. -/
def unescape? : Char → Option Char
  | '"' => some '"'
  | '\\' => some '\\'
  | '/' => some '/'
  | 'b' => some (Char.ofNat 0x08)
  | 'f' => some (Char.ofNat 0x0C)
  | 'n' => some '\n'
  | 'r' => some '\r'
  | 't' => some '\t'
  | _ => none

/-- Reads a string behind its opening quote. `read` holds what was read before,
the latest first, and `fuel` bounds the number of characters. -/
def readString : Nat → List Char → List Char → Except JsonError (String × List Char)
  | 0, _, _ => .error .cutShort
  | fuel + 1, read, text =>
      match text with
      | [] => .error .cutShort
      | '"' :: rest => .ok (String.ofList read.reverse, rest)
      | ['\\'] => .error .cutShort
      | '\\' :: 'u' :: rest => do
          let (c, rest) ← readUnits rest
          readString fuel (c :: read) rest
      | '\\' :: c :: rest =>
          match unescape? c with
          | some c => readString fuel (c :: read) rest
          | none => .error .malformed
      | c :: rest =>
          if c.toNat < 0x20 then .error .malformed else readString fuel (c :: read) rest

end Json

end Highlight
