import Highlight.Number.Digits
import Highlight.Text.Signs
import Highlight.Pattern.Written.Flags
import Highlight.Pattern.Written.Property

/-!
# Escapes of written patterns

A backslash takes the special meaning from a punctuation character and gives
one to a letter: some letters name control characters, some sets, some
conditions on a place, and three introduce a character by its code point.
-/

namespace Highlight

set_option autoImplicit false

/-- What an escape stands for. -/
inductive PatternEscape where
  | character (c : Char)
  | set (s : CharSet)
  | condition (a : Assertion)

namespace PatternEscape

/-- The character of a code point. -/
def characterOf (code : Nat) : Except PatternError Char :=
  if code < 0xD800 ∨ (0xDFFF < code ∧ code < 0x110000) then .ok (Char.ofNat code)
  else .error .codePointInvalid

/-- A code point in a given number of hexadecimal digits. -/
def readDigits (flags : PatternFlags) :
    Nat → Nat → List Char → Except PatternError (Nat × List Char)
  | 0, value, rest => .ok (value, rest)
  | _ + 1, _, [] => .error .escapeUnclosed
  | n + 1, value, c :: rest =>
      match hexValue? c with
      | none => .error .codePointInvalid
      | some digit => readDigits flags n (16 * value + digit) (flags.skip rest)

/-- The text up to a closing brace, blanks left out if they mean nothing. -/
def readBraced (flags : PatternFlags) :
    Nat → List Char → List Char → Except PatternError (List Char × List Char)
  | 0, _, _ => .error .escapeUnclosed
  | fuel + 1, read, text =>
      match flags.skip text with
      | [] => .error .escapeUnclosed
      | c :: rest =>
          if c = closeBrace then .ok (read.reverse, rest)
          else readBraced flags fuel (c :: read) rest

/-- A code point in hexadecimal digits of any number. -/
def codeOf (digits : List Char) : Except PatternError Nat :=
  if digits.isEmpty then .error .codePointInvalid
  else digits.foldlM (fun value c =>
    match hexValue? c with
    | none => .error .codePointInvalid
    | some digit => .ok (min (16 * value + digit) 0x110000)) 0

/-- Reads a character given by its code point, in a fixed number of digits or
in braces. Two digits name a byte where Unicode is off, so they must stay in
ASCII there. -/
def readCodePoint (flags : PatternFlags) (digits : Nat) (text : List Char) :
    Except PatternError (PatternEscape × List Char) := do
  match flags.skip text with
  | [] => .error .escapeUnclosed
  | c :: rest =>
      if c = openBrace then
        let (braced, rest) ← readBraced flags (rest.length + 1) [] rest
        let character ← characterOf (← codeOf braced)
        .ok (.character character, flags.skip rest)
      else
        let (code, rest) ← readDigits flags digits 0 (c :: rest)
        let character ← characterOf code
        if digits = 2 ∧ flags.unicode = false ∧ 0x80 ≤ code then .error .needsBytes
        else .ok (.character character, rest)

/-- Reads the name of a property, one letter or a name in braces. -/
def readProperty (flags : PatternFlags) (negated : Bool) (text : List Char) :
    Except PatternError (PatternEscape × List Char) := do
  let (name, rest) ← match flags.skip text with
    | [] => .error .escapeUnclosed
    | c :: rest =>
        if c = openBrace then readBraced flags (rest.length + 1) [] rest
        else if c = '\\' then .error .propertyUnknown
        else .ok ([c], flags.skip rest)
  if flags.unicode = false then .error .needsUnicode
  else
    match namedProperty? name with
    | none => .error .propertyUnknown
    | some s =>
        let s := flags.folded s
        .ok (.set (if negated then .compl s else s), rest)

/-- A named set, which is smaller where Unicode is off; its complement needs
bytes there. -/
def namedSet (flags : PatternFlags) (negated : Bool) (unicode ascii : CharSet) :
    Except PatternError PatternEscape :=
  if flags.unicode then .ok (.set (if negated then .compl unicode else unicode))
  else if negated then .error .needsBytes
  else .ok (.set ascii)

/-- The blanks of ASCII. -/
def asciiSpaces : CharSet := .union (.range '\t' '\r') (.single ' ')

/-- The letters and the hyphen that conditions on words are named with. -/
def isConditionLetter (c : Char) : Bool :=
  ('a' ≤ c && c ≤ 'z') || ('A' ≤ c && c ≤ 'Z') || c == '-'

/-- The name in front of a closing brace. -/
def readConditionName (flags : PatternFlags) :
    Nat → List Char → List Char → Except PatternError (String × List Char)
  | 0, _, _ => .error .wordConditionUnknown
  | fuel + 1, read, text =>
      match text with
      | [] => .error .wordConditionUnknown
      | c :: rest =>
          if isConditionLetter c then readConditionName flags fuel (c :: read) (flags.skip rest)
          else if c = closeBrace then .ok (String.ofList read.reverse, rest)
          else .error .wordConditionUnknown

/-- Reads what follows `b`: a condition named in braces, or nothing, in which
case a count in braces may follow. -/
def readWordCondition (flags : PatternFlags) (text : List Char) :
    Except PatternError (PatternEscape × List Char) := do
  let plain := PatternEscape.condition (.wordEdge flags.wordSet)
  match text with
  | [] => .ok (plain, text)
  | c :: rest =>
      if c ≠ openBrace then .ok (plain, text)
      else
        match flags.skip rest with
        | [] => .error .wordConditionUnknown
        | d :: tail =>
            if !isConditionLetter d then .ok (plain, text)
            else
              let (name, rest) ← readConditionName flags (tail.length + 2) [] (d :: tail)
              match name with
              | "start" => .ok (.condition (.wordStart flags.wordSet), rest)
              | "end" => .ok (.condition (.wordEnd flags.wordSet), rest)
              | "start-half" => .ok (.condition (.noWordBefore flags.wordSet), rest)
              | "end-half" => .ok (.condition (.noWordAfter flags.wordSet), rest)
              | _ => .error .wordConditionUnknown

/-- The character a letter names after a backslash. -/
def controlCharacter? : Char → Option Char
  | 'a' => some (Char.ofNat 0x07)
  | 'f' => some (Char.ofNat 0x0C)
  | 't' => some '\t'
  | 'n' => some '\n'
  | 'r' => some '\r'
  | 'v' => some (Char.ofNat 0x0B)
  | _ => none

/-- Whether a backslash before a character leaves the character as it is. -/
def isPlainAfterBackslash (c : Char) : Bool :=
  c.toNat < 0x80 && !c.isAlphanum && c != '<' && c != '>'

/-- Reads what follows a backslash. -/
def read (flags : PatternFlags) : List Char → Except PatternError (PatternEscape × List Char)
  | [] => .error .escapeUnclosed
  | c :: rest =>
      let words := flags.wordSet
      match c with
      | 'x' => readCodePoint flags 2 rest
      | 'u' => readCodePoint flags 4 rest
      | 'U' => readCodePoint flags 8 rest
      | 'p' => readProperty flags false rest
      | 'P' => readProperty flags true rest
      | 'd' => return (← namedSet flags false .digit (.range '0' '9'), rest)
      | 'D' => return (← namedSet flags true .digit (.range '0' '9'), rest)
      | 's' => return (← namedSet flags false .whiteSpace asciiSpaces, rest)
      | 'S' => return (← namedSet flags true .whiteSpace asciiSpaces, rest)
      | 'w' => return (← namedSet flags false .word words, rest)
      | 'W' => return (← namedSet flags true .word words, rest)
      | 'A' => .ok (.condition .textStart, rest)
      | 'z' => .ok (.condition .textEnd, rest)
      | 'b' => readWordCondition flags rest
      | 'B' => .ok (.condition (.noWordEdge words), rest)
      | '<' => .ok (.condition (.wordStart words), rest)
      | '>' => .ok (.condition (.wordEnd words), rest)
      | c =>
          match controlCharacter? c with
          | some control => .ok (.character control, rest)
          | none =>
              if isPlainAfterBackslash c then .ok (.character c, rest)
              else if c.isDigit then .error .backReference
              else .error .escapeUnknown

end PatternEscape

end Highlight
