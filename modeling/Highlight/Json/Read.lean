import Highlight.Json.Text
import Highlight.Json.Number

/-!
# Reading JSON

A text may be no JSON, it may break off before its value is complete, or it may
be JSON of another shape than asked for. The first thing wrong decides, in the
order of the text.

Arrays and objects may be nested 127 levels deep.
-/

namespace Highlight

set_option autoImplicit false

namespace Json

/-- How deep arrays and objects may be nested. -/
def levelLimit : Nat := 127

/-- White space between the parts of a value. -/
def isBlank (c : Char) : Bool := c == ' ' || c == '\n' || c == '\t' || c == '\r'

/-- The text without leading white space. -/
def skipBlanks (text : List Char) : List Char := text.dropWhile isBlank

/-- What follows in an array or object: its end, or the next member. -/
inductive Next where
  | done (rest : List Char)
  | member (text : List Char)

/-- What follows in an array, at its beginning or behind an element. -/
def nextElement (first : Bool) (text : List Char) : Except JsonError Next :=
  match skipBlanks text with
  | [] => .error .cutShort
  | ']' :: rest => .ok (.done rest)
  | c :: rest =>
      if first then .ok (.member (c :: rest))
      else if c = ',' then
        match skipBlanks rest with
        | [] => .error .cutShort
        | ']' :: _ => .error .malformed
        | text => .ok (.member text)
      else .error .malformed

/-- What follows in an object, at its beginning or behind a field; a member is
the text behind the opening quote of its name. -/
def nextField (first : Bool) (text : List Char) : Except JsonError Next :=
  match skipBlanks text with
  | [] => .error .cutShort
  | c :: rest =>
      if c = closeBrace then .ok (.done rest)
      else if first then
        if c = '"' then .ok (.member rest) else .error .malformed
      else if c = ',' then
        match skipBlanks rest with
        | [] => .error .cutShort
        | '"' :: rest => .ok (.member rest)
        | _ => .error .malformed
      else .error .malformed

/-- Reads the colon between the name and the value of a field. -/
def readColon (text : List Char) : Except JsonError (List Char) :=
  match skipBlanks text with
  | [] => .error .cutShort
  | ':' :: rest => .ok rest
  | _ => .error .malformed

/-- Reads the rest of a fixed word. -/
def readWord : List Char → List Char → Except JsonError (List Char)
  | [], text => .ok text
  | _ :: _, [] => .error .cutShort
  | c :: word, d :: text => if c = d then readWord word text else .error .malformed

/-- Reads a value that is neither an array nor an object. -/
def readScalar (text : List Char) : Except JsonError (Json × List Char) :=
  match text with
  | [] => .error .cutShort
  | 'n' :: rest => (readWord ['u', 'l', 'l'] rest).map (.null, ·)
  | 't' :: rest => (readWord ['r', 'u', 'e'] rest).map (.bool true, ·)
  | 'f' :: rest => (readWord ['a', 'l', 's', 'e'] rest).map (.bool false, ·)
  | '"' :: rest => (readString (rest.length + 1) [] rest).map fun (s, rest) => (.string s, rest)
  | '-' :: rest =>
      (readNumber rest).map fun after =>
        (.number (String.ofList (text.take (text.length - after.length))), after)
  | c :: _ =>
      if c.isDigit then
        (readNumber text).map fun after =>
          (.number (String.ofList (text.take (text.length - after.length))), after)
      else .error .malformed

mutual

/-- Reads a value, in which arrays and objects may be nested `levels` deep. -/
def readValue : Nat → Nat → List Char → Except JsonError (Json × List Char)
  | 0, _, _ => .error .cutShort
  | fuel + 1, levels, text =>
      match skipBlanks text with
      | '[' :: rest =>
          match levels with
          | 0 => .error .malformed
          | levels + 1 => do
              let (elements, rest) ← readElements fuel levels true [] rest
              return (.array elements, rest)
      | c :: rest =>
          if c = openBrace then
            match levels with
            | 0 => .error .malformed
            | levels + 1 => do
                let (fields, rest) ← readFields fuel levels true [] rest
                return (.object fields, rest)
          else readScalar (c :: rest)
      | [] => .error .cutShort

/-- Reads the elements of an array up to its end. -/
def readElements : Nat → Nat → Bool → List Json → List Char →
    Except JsonError (List Json × List Char)
  | 0, _, _, _, _ => .error .cutShort
  | fuel + 1, levels, first, read, text => do
      match ← nextElement first text with
      | .done rest => .ok (read.reverse, rest)
      | .member text =>
          let (value, rest) ← readValue fuel levels text
          readElements fuel levels false (value :: read) rest

/-- Reads the fields of an object up to its end. -/
def readFields : Nat → Nat → Bool → List (String × Json) → List Char →
    Except JsonError (List (String × Json) × List Char)
  | 0, _, _, _, _ => .error .cutShort
  | fuel + 1, levels, first, read, text => do
      match ← nextField first text with
      | .done rest => .ok (read.reverse, rest)
      | .member text =>
          let (name, rest) ← readString (text.length + 1) [] text
          let rest ← readColon rest
          let (value, rest) ← readValue fuel levels rest
          readFields fuel levels false ((name, value) :: read) rest

end

/-- Nothing but white space may follow a value. -/
def readEnd (text : List Char) : Except JsonError Unit :=
  if (skipBlanks text).isEmpty then .ok () else .error .malformed

end Json

end Highlight
