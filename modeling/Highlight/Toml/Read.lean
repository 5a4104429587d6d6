import Highlight.Toml.Moment
import Highlight.Toml.Number
import Highlight.Toml.Table
import Highlight.Toml.Text

/-!
# Reading TOML

A TOML text is a row of lines with keys and values and of headers, which say to
which table the lines behind them belong. Values and keys have less than 80
levels.
-/

namespace Highlight

set_option autoImplicit false

namespace Toml

/-! ## Keys -/

/-- A character of a key without quotes. -/
def isKeyChar (c : Char) : Bool := c.isAlphanum || c == '_' || c == '-'

/-- The number that values and keys have less levels than. -/
def levelLimit : Nat := 80

/-- Reads a part of a dotted key. -/
def readKeyPart (text : List Char) : Option (String × List Char) :=
  match text with
  | [] => none
  | c :: _ =>
      if c = '"' ∨ c = '\'' then readShort text
      else if isKeyChar c then
        some (String.ofList (text.takeWhile isKeyChar), text.dropWhile isKeyChar)
      else none

/-- Reads the parts of a dotted key, with blanks around them. -/
def readKeyParts : Nat → List Char → Option (List String × List Char)
  | 0, _ => none
  | fuel + 1, text => do
      let (part, rest) ← readKeyPart (skipBlanks text)
      match skipBlanks rest with
      | '.' :: rest =>
          let (parts, rest) ← readKeyParts fuel rest
          return (part :: parts, rest)
      | rest => return ([part], rest)

/-- Reads a dotted key. -/
def readKey (text : List Char) : Option (List String × List Char) := do
  let (parts, rest) ← readKeyParts (text.length + 1) text
  if parts.length < levelLimit then return (parts, rest) else none

/-- Reads a dotted key and the equals sign behind it. -/
def readAssigned (text : List Char) : Option (List String × List Char) := do
  let (path, rest) ← readKey text
  match rest with
  | '=' :: rest => return (path, skipBlanks rest)
  | _ => none

/-! ## Values -/

/-- A character of a word. -/
def isWordChar (c : Char) : Bool :=
  c.isAlphanum || c == '_' || c == '+' || c == '-' || c == '.' || c == ':'

/-- Reads a value that is a word: a truth value, a number or a moment. Of a
moment the time may be a word of its own. -/
def readWord (text : List Char) : Option (Value × List Char) :=
  let word := text.takeWhile isWordChar
  let rest := text.dropWhile isWordChar
  if word = ['t', 'r', 'u', 'e'] then some (.truth true, rest)
  else if word = ['f', 'a', 'l', 's', 'e'] then some (.truth false, rest)
  else if isDate word then
    match rest with
    | ' ' :: behind =>
        let time := behind.takeWhile isWordChar
        if time.isEmpty then some (.other, rest)
        else if isTimeOfDate time then some (.other, behind.dropWhile isWordChar)
        else none
    | _ => some (.other, rest)
  else if isDateTime word || isTime word || isInteger word || isFloat word then some (.other, rest)
  else none

mutual

/-- Reads a value, in which arrays and tables may have a number of levels. -/
def readValue : Nat → Nat → List Char → Option (Value × List Char)
  | 0, _, _ => none
  | fuel + 1, levels, text =>
      match text, levels with
      | '"' :: _, _ => (readText text).map fun (s, rest) => (.text s, rest)
      | '\'' :: _, _ => (readText text).map fun (s, rest) => (.text s, rest)
      | '[' :: _, 0 => none
      | '[' :: rest, levels + 1 =>
          (readElements fuel levels (skipLines rest.length rest)).map (.other, ·)
      | c :: rest, levels =>
          if c = openBrace then
            match levels with
            | 0 => none
            | levels + 1 =>
                match skipBlanks rest with
                | [] => none
                | c :: behind =>
                    if c = closeBrace then some (.other, behind)
                    else (readFields fuel levels [] rest).map (.other, ·)
          else readWord text
      | [], _ => none

/-- Reads the elements of an array up to its end. -/
def readElements : Nat → Nat → List Char → Option (List Char)
  | 0, _, _ => none
  | _ + 1, _, ']' :: rest => some rest
  | fuel + 1, levels, text => do
      let (_, rest) ← readValue fuel levels text
      match skipLines rest.length rest with
      | ',' :: rest => readElements fuel levels (skipLines rest.length rest)
      | ']' :: rest => return rest
      | _ => none

/-- Reads the fields of a table on one line up to its end. -/
def readFields : Nat → Nat → Entries → List Char → Option (List Char)
  | 0, _, _, _ => none
  | fuel + 1, levels, entries, text => do
      let (path, rest) ← readAssigned text
      let (value, rest) ← readValue fuel levels rest
      let entries ← put entries path value
      match skipBlanks rest with
      | ',' :: rest => readFields fuel levels entries rest
      | c :: rest => if c = closeBrace then return rest else none
      | [] => none

end

/-! ## Documents -/

/-- What has been read of a text: its tables, and the path of the table that the
next lines belong to. -/
structure Progress where
  entries : Entries
  path : List String

/-- Reads a header behind its opening brackets. -/
def readHeader (isArray : Bool) (progress : Progress) (text : List Char) :
    Option (Progress × List Char) := do
  let (path, rest) ← readKey text
  let entries ← addHeader isArray path progress.entries
  match isArray, rest with
  | false, ']' :: rest => return (⟨entries, path⟩, ← endLine rest)
  | true, ']' :: ']' :: rest => return (⟨entries, path⟩, ← endLine rest)
  | _, _ => none

/-- Reads a line with a key and a value. -/
def readPair (progress : Progress) (text : List Char) : Option (Progress × List Char) := do
  let (path, rest) ← readAssigned text
  let (value, rest) ← readValue (2 * rest.length + 2) (levelLimit - 1) rest
  let entries ← update (fun inner => put inner path value) progress.entries progress.path
  return (⟨entries, progress.path⟩, ← endLine rest)

/-- Reads the lines of a text. -/
def readLines : Nat → Progress → List Char → Option Progress
  | 0, progress, text => if text.isEmpty then some progress else none
  | fuel + 1, progress, text =>
      match skipBlanks text with
      | [] => some progress
      | '[' :: '[' :: rest => do
          let (progress, rest) ← readHeader true progress rest
          readLines fuel progress rest
      | '[' :: rest => do
          let (progress, rest) ← readHeader false progress rest
          readLines fuel progress rest
      | c :: rest =>
          if c = '#' ∨ c = '\n' then (endLine (c :: rest)).bind (readLines fuel progress)
          else do
            let (progress, rest) ← readPair progress (c :: rest)
            readLines fuel progress rest

/-- The tables of a text. -/
def parse (text : String) : Option Entries :=
  let text := normalize text.toList
  (readLines text.length ⟨[], []⟩ text).map (·.entries)

end Toml

end Highlight
