import Highlight.Pattern.Written.Set
import Highlight.Text.Letters
import Highlight.Text.GeneralCategory

/-!
# Reading patterns

A written pattern is a choice of branches, a branch a row of parts, and a part
a character, an escape, a set, a condition or a group, which may be followed by
a sign of repetition. Groups may have names, and the group named `token` is the
token of the pattern; other names and numbers of groups have no effect.

A pattern may not be nested deeper than 250 parts, and its repetitions may not
make it larger than a fixed budget (`sizeLimit`).
-/

namespace Highlight

set_option autoImplicit false

/-- The name of the group that is the token of a pattern. -/
def tokenGroup : String := "token"

/-- How deep a pattern may be nested. -/
def nestingLimit : Nat := 250

/-- How much a pattern may weigh once its repetitions are written out. -/
def sizeLimit : Nat := 10485760

/-- A pattern that was read, with its nesting and its weight. A change of flags
is a part too, but none that can be repeated. -/
structure WrittenPart where
  pattern : Pattern
  depth : Nat
  weight : Nat
  repeatable : Bool := true

namespace WrittenPart

/-- What a set adds to the weight of a pattern. -/
def setWeight : CharSet → Nat
  | .range _ last => if last.toNat < 0x80 then 32 else 128
  | .property .word => 50000
  | .property .digit => 4000
  | .property .whiteSpace => 1000
  | .property (.listed table) => 32 + 64 * table.length
  | .union s t => setWeight s + setWeight t
  | .inter s t => setWeight s + setWeight t
  | .compl s => setWeight s + 128
  | .anyCase s => setWeight s + 64

/-- A part for one character of a set. -/
def ofSet (s : CharSet) (depth : Nat) : WrittenPart := ⟨.one s, depth, setWeight s, true⟩

/-- A part for a condition. -/
def ofAssertion (a : Assertion) : WrittenPart := ⟨.assert a, 0, 64, true⟩

/-- A part for a given character, in both cases if the flags ask for it. -/
def ofChar (flags : PatternFlags) (c : Char) : WrittenPart :=
  if flags.anyCase && (flags.unicode || c.toNat < 0x80) && 1 < (caseVariants c).length then
    ofSet (flags.folded (.single c)) 0
  else ofSet (.single c) 0

/-- A part for what an escape stands for. -/
def ofEscape (flags : PatternFlags) : PatternEscape → WrittenPart
  | .character c => ofChar flags c
  | .set s => ofSet s 0
  | .condition a => ofAssertion a

/-- One part out of a row of parts, the latest first. -/
def ofRow : List WrittenPart → WrittenPart
  | [] => ⟨.empty, 0, 0, true⟩
  | [part] => part
  | parts =>
      ⟨.seq ((parts.filter (·.repeatable)).reverse.map (·.pattern)),
        1 + parts.foldl (fun d part => max d part.depth) 0,
        parts.foldl (fun w part => w + part.weight) 0, true⟩

/-- One part out of alternatives, the latest first. -/
def ofBranches : List WrittenPart → WrittenPart
  | [] => ⟨.empty, 0, 0, true⟩
  | [part] => part
  | parts =>
      ⟨.choice (parts.reverse.map (·.pattern)),
        1 + parts.foldl (fun d part => max d part.depth) 0,
        parts.foldl (fun w part => w + part.weight) 64, true⟩

/-- A part repeated at least `low` times and at most `high` times, `none` being
no limit. -/
def repeated (part : WrittenPart) (greedy : Bool) (low : Nat) (high : Option Nat) :
    Except PatternError WrittenPart :=
  let copies := max 1 (high.getD (low + 1))
  let weight := copies * (part.weight + 64)
  if sizeLimit < weight then .error .tooLarge
  else
    let pattern := match high with
      | none => Pattern.atLeast greedy part.pattern low
      | some high => Pattern.between greedy part.pattern low high
    .ok ⟨pattern, 1 + part.depth, weight, true⟩

end WrittenPart

/-! ## Counts and names -/

/-- The digits in front of a text as a number, blanks around and, if they mean
nothing, between them left out. -/
def readCount (flags : PatternFlags) :
    Nat → Option Nat → List Char → Option Nat × List Char
  | 0, value, text => (value, text)
  | fuel + 1, value, text =>
      match text with
      | [] => (value, [])
      | c :: rest =>
          if c.isDigit then
            readCount flags fuel (some (10 * value.getD 0 + (c.toNat - '0'.toNat)))
              (flags.skip rest)
          else (value, text)

/-- A number of repetitions, which must be present and fit into 32 bits. -/
def readNumber (flags : PatternFlags) (text : List Char) :
    Except PatternError (Nat × List Char) :=
  let (value, rest) := readCount flags (text.length + 1) none (text.dropWhile isWhiteSpace)
  match value with
  | none => .error .countMissing
  | some value =>
      if value < 4294967296 then .ok (value, flags.skip (rest.dropWhile isWhiteSpace))
      else .error .countTooLarge

/-- Reads a count in braces behind the opening one. -/
def readRange (flags : PatternFlags) (text : List Char) :
    Except PatternError (Nat × Option Nat × List Char) := do
  let (low, rest) ← readNumber flags (flags.skip text)
  let (high, rest) ← match rest with
    | ',' :: rest =>
        match flags.skip rest with
        | [] => .error .countUnclosed
        | c :: tail =>
            if c = closeBrace then .ok (none, c :: tail)
            else do
              let (high, rest) ← readNumber flags (c :: tail)
              .ok (some high, rest)
    | rest => .ok (some low, rest)
  match rest with
  | c :: rest =>
      if c ≠ closeBrace then .error .countUnclosed
      else if high.any (· < low) then .error .countReversed
      else return (low, high, rest)
  | [] => .error .countUnclosed

/-- Whether a character can stand in the name of a group. -/
def isNameCharacter (first : Bool) (c : Char) : Bool :=
  let alphabetic := CharTable.alphabetic.contains c.toNat
  let numeric := isDecimalDigit c || CharTable.letterNumber.contains c.toNat ||
    CharTable.otherNumber.contains c.toNat
  if first then c == '_' || alphabetic
  else c == '_' || c == '.' || c == '[' || c == ']' || alphabetic || numeric

/-- Reads the name of a group up to the closing angle bracket. -/
def readName : Bool → List Char → List Char → Except PatternError (String × List Char)
  | _, _, [] => .error .nameInvalid
  | first, read, c :: rest =>
      if c = '>' then
        if first then .error .nameInvalid else .ok (String.ofList read.reverse, rest)
      else if isNameCharacter first c then readName false (c :: read) rest
      else .error .nameInvalid

/-! ## Groups -/

/-- What has been read of a group: its finished branches and the parts of the
branch being read, the latest first, and the names of all groups so far. -/
structure PendingGroup where
  branches : List WrittenPart
  parts : List WrittenPart
  names : List String

namespace PendingGroup

/-- One more part. -/
def add (g : PendingGroup) (part : WrittenPart) : PendingGroup :=
  { g with parts := part :: g.parts }

/-- Ends the branch being read. -/
def nextBranch (g : PendingGroup) : PendingGroup :=
  { g with branches := .ofRow g.parts :: g.branches, parts := [] }

/-- All that has been read as one part. -/
def close (g : PendingGroup) : WrittenPart := .ofBranches g.nextBranch.branches

/-- Repeats the latest part. -/
def repeatLast (g : PendingGroup) (greedy : Bool) (low : Nat) (high : Option Nat) :
    Except PatternError PendingGroup :=
  match g.parts with
  | [] => .error .nothingToRepeat
  | part :: rest =>
      if part.repeatable then
        match part.repeated greedy low high with
        | .error e => .error e
        | .ok part => .ok { g with parts := part :: rest }
      else .error .nothingToRepeat

end PendingGroup

/-- Whether a question mark makes a repetition prefer less, and what follows. -/
def readPreference (flags : PatternFlags) : List Char → Bool × List Char
  | '?' :: rest => (flags.lazyFirst, rest)
  | text => (!flags.lazyFirst, text)

/-- A single sign of repetition. -/
def repetitionSign? : Char → Option (Nat × Option Nat)
  | '?' => some (0, some 1)
  | '*' => some (0, none)
  | '+' => some (1, none)
  | _ => none

/-- The set of the characters a dot stands for. -/
def dotSet (flags : PatternFlags) : CharSet :=
  if flags.dotMatchesAll then .all
  else if flags.returns then .compl (.ofList ['\r', '\n'])
  else .compl (.single '\n')

/-- The condition a circumflex stands for. -/
def startCondition (flags : PatternFlags) : Assertion :=
  if flags.manyLines then if flags.returns then .returnLineStart else .lineStart else .textStart

/-- The condition a dollar sign stands for. -/
def endCondition (flags : PatternFlags) : Assertion :=
  if flags.manyLines then if flags.returns then .returnLineEnd else .lineEnd else .textEnd

/-- What opens behind a round bracket. -/
inductive GroupOpening where
  | look
  | named (name : String)
  | flagged (flags : PatternFlags)
  | changed (flags : PatternFlags)
  | plain

/-- Reads what follows an opening round bracket. -/
def readOpening (flags : PatternFlags) (text : List Char) :
    Except PatternError (GroupOpening × List Char) :=
  let byFlags (rest : List Char) : Except PatternError (GroupOpening × List Char) := do
    if rest.isEmpty then .error .groupUnclosed
    else
      let (changed, given, rest) ← flags.read [] rest
      match rest with
      | ')' :: rest =>
          if given.isEmpty then .error .nothingToRepeat else .ok (.changed changed, rest)
      | _ :: rest => .ok (.flagged changed, rest)
      | [] => .error .flagsUnclosed
  let named (rest : List Char) : Except PatternError (GroupOpening × List Char) := do
    let (name, rest) ← readName true [] rest
    .ok (.named name, rest)
  match flags.skip text with
  | '?' :: '=' :: rest => .ok (.look, rest)
  | '?' :: '!' :: rest => .ok (.look, rest)
  | '?' :: '<' :: '=' :: rest => .ok (.look, rest)
  | '?' :: '<' :: '!' :: rest => .ok (.look, rest)
  | '?' :: 'P' :: '<' :: rest => named rest
  | '?' :: '<' :: rest => named rest
  | '?' :: rest => byFlags rest
  | rest => .ok (.plain, rest)

/-- Reads a group, or the whole pattern if `outermost`, up to its end. -/
def readGroup : Nat → Bool → PatternFlags → PendingGroup → List Char →
    Except PatternError (WrittenPart × List String × List Char)
  | 0, _, _, _, _ => .error .tooLarge
  | fuel + 1, outermost, flags, g, text =>
      match flags.skip text with
      | [] => if outermost then .ok (g.close, g.names, []) else .error .groupUnclosed
      | ')' :: rest => if outermost then .error .groupUnopened else .ok (g.close, g.names, rest)
      | '|' :: rest => readGroup fuel outermost flags g.nextBranch rest
      | '(' :: rest => do
          let inside (inner : PatternFlags) (names : List String)
              (wrap : Pattern → Pattern) (rest : List Char) :
              Except PatternError (WrittenPart × List String × List Char) := do
            let (part, names, rest) ← readGroup fuel false inner ⟨[], [], names⟩ rest
            let group : WrittenPart :=
              { part with
                pattern := wrap part.pattern
                depth := 1 + part.depth
                repeatable := true }
            readGroup fuel outermost flags { g.add group with names := names } rest
          match ← readOpening flags rest with
          | (.look, _) => .error .lookAround
          | (.changed changed, rest) =>
              readGroup fuel outermost changed (g.add ⟨.empty, 0, 0, false⟩) rest
          | (.flagged inner, rest) => inside inner g.names id rest
          | (.plain, rest) => inside flags g.names id rest
          | (.named name, rest) =>
              if g.names.contains name then .error .nameRepeated
              else
                inside flags (name :: g.names) (if name = tokenGroup then .token else id) rest
      | '[' :: rest => do
          let (s, rest) ← WrittenSet.read flags (2 * rest.length + 2) rest
          readGroup fuel outermost flags (g.add (.ofSet s.set s.depth)) rest
      | '\\' :: rest => do
          let (escape, rest) ← PatternEscape.read flags rest
          readGroup fuel outermost flags (g.add (.ofEscape flags escape)) rest
      | '.' :: rest =>
          if flags.unicode then
            readGroup fuel outermost flags (g.add (.ofSet (dotSet flags) 0)) rest
          else .error .needsBytes
      | '^' :: rest =>
          readGroup fuel outermost flags (g.add (.ofAssertion (startCondition flags))) rest
      | '$' :: rest =>
          readGroup fuel outermost flags (g.add (.ofAssertion (endCondition flags))) rest
      | c :: rest =>
          match repetitionSign? c with
          | some (low, high) => do
              let (greedy, rest) := readPreference flags rest
              readGroup fuel outermost flags (← g.repeatLast greedy low high) rest
          | none =>
              if c = openBrace then do
                match g.parts with
                | [] => .error .nothingToRepeat
                | _ =>
                    let (low, high, rest) ← readRange flags rest
                    let (greedy, rest) := readPreference flags (flags.skip rest)
                    readGroup fuel outermost flags (← g.repeatLast greedy low high) rest
              else readGroup fuel outermost flags (g.add (.ofChar flags c)) rest

/-- Reads a pattern. -/
def Pattern.read (text : String) : Except PatternError Pattern := do
  let characters := text.toList
  let (part, _, _) ← readGroup (characters.length + 1) true {} ⟨[], [], []⟩ characters
  if nestingLimit < part.depth then .error .nestedTooDeep
  else if sizeLimit < part.weight then .error .tooLarge
  else .ok part.pattern

end Highlight
