import Highlight.Pattern.Basic
import Highlight.Pattern.Written.Error

/-!
# Flags of written patterns

A flag changes how the rest of a group is read. Flags are single letters;
those after a hyphen are turned off. No letter may stand twice, and neither may
the hyphen.

With the flag `x` blanks and comments mean nothing between the parts of a
pattern. A comment runs from a hash to the end of its line.
-/

namespace Highlight

set_option autoImplicit false

/-- The ways in which the reading of a pattern can be changed. -/
structure PatternFlags where
  anyCase : Bool := false
  manyLines : Bool := false
  dotMatchesAll : Bool := false
  lazyFirst : Bool := false
  unicode : Bool := true
  returns : Bool := false
  spaced : Bool := false
deriving DecidableEq

namespace PatternFlags

/-- The flag of a letter turned on or off, if the letter names a flag. -/
def set? (flags : PatternFlags) (letter : Char) (value : Bool) : Option PatternFlags :=
  match letter with
  | 'i' => some { flags with anyCase := value }
  | 'm' => some { flags with manyLines := value }
  | 's' => some { flags with dotMatchesAll := value }
  | 'U' => some { flags with lazyFirst := value }
  | 'u' => some { flags with unicode := value }
  | 'R' => some { flags with returns := value }
  | 'x' => some { flags with spaced := value }
  | _ => none

/-- Reads flags up to the colon or closing bracket that ends them, which stays
in the rest. `given` holds what was read before, the latest first. -/
def read (flags : PatternFlags) (given : List Char) :
    List Char → Except PatternError (PatternFlags × List Char × List Char)
  | [] => .error .flagsUnclosed
  | c :: rest =>
      if c = ':' ∨ c = ')' then
        if given.head? = some '-' then .error .flagDangling
        else .ok (flags, given, c :: rest)
      else if given.contains c then .error .flagRepeated
      else if c = '-' then read flags (c :: given) rest
      else
        match flags.set? c (!given.contains '-') with
        | none => .error .flagUnknown
        | some changed => read changed (c :: given) rest

/-- The characters that words are made of under the flags. -/
def wordSet (flags : PatternFlags) : CharSet :=
  if flags.unicode then .word
  else .unions [.range '0' '9', .range 'A' 'Z', .single '_', .range 'a' 'z']

/-- A set closed under case variants if the flags ask for it. Where Unicode is
off only ASCII letters have variants. -/
def folded (flags : PatternFlags) (s : CharSet) : CharSet :=
  if flags.anyCase then
    if flags.unicode then .anyCase s else .inter (.anyCase s) CharSet.ascii
  else s

end PatternFlags

/-- Drops blanks and comments. -/
def dropBlanks (inComment : Bool) : List Char → List Char
  | [] => []
  | c :: rest =>
      if inComment then dropBlanks (c != '\n') rest
      else if isWhiteSpace c then dropBlanks false rest
      else if c = '#' then dropBlanks true rest
      else c :: rest

/-- What is left after blanks and comments, if they mean nothing. -/
def PatternFlags.skip (flags : PatternFlags) (text : List Char) : List Char :=
  if flags.spaced then dropBlanks false text else text

end Highlight
