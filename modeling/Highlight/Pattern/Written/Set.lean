import Highlight.Pattern.Written.Escape

/-!
# Sets of written patterns

A set stands in square brackets: characters, stretches of characters, escapes,
named ASCII sets and further sets in brackets, all of them together, or, after
a circumflex, everything else. Between such unions may stand the signs for
intersection, difference and symmetric difference, which bind alike and from
the left.

Case variants are added to a union before it is negated or combined, so with
the flag `i` the negation of a letter excludes both of its cases.
-/

namespace Highlight

set_option autoImplicit false

/-- A set that was read, with how deep its brackets are nested. -/
structure WrittenSet where
  set : CharSet
  depth : Nat

namespace WrittenSet

/-- The named ASCII sets. -/
def asciiNamed? : String → Option CharSet
  | "alnum" => some (.unions [.range '0' '9', .range 'A' 'Z', .range 'a' 'z'])
  | "alpha" => some (.union (.range 'A' 'Z') (.range 'a' 'z'))
  | "ascii" => some .ascii
  | "blank" => some (.ofList ['\t', ' '])
  | "cntrl" => some (.union (.range (Char.ofNat 0) (Char.ofNat 0x1F)) (.single (Char.ofNat 0x7F)))
  | "digit" => some (.range '0' '9')
  | "graph" => some (.range '!' '~')
  | "lower" => some (.range 'a' 'z')
  | "print" => some (.range ' ' '~')
  | "punct" => some (.unions [.range '!' '/', .range ':' '@', .range '[' backtick,
      .range openBrace '~'])
  | "space" => some PatternEscape.asciiSpaces
  | "upper" => some (.range 'A' 'Z')
  | "word" => some (.unions [.range '0' '9', .range 'A' 'Z', .single '_', .range 'a' 'z'])
  | "xdigit" => some (.unions [.range '0' '9', .range 'A' 'F', .range 'a' 'f'])
  | _ => none

/-- Reads a named ASCII set behind its opening bracket, if there is one; the
second component says whether it is negated. -/
def readAscii? : List Char → Option (CharSet × Bool × List Char)
  | ':' :: text =>
      let (negated, text) := match text with
        | '^' :: rest => (true, rest)
        | _ => (false, text)
      match text.dropWhile (· != ':') with
      | ':' :: ']' :: rest =>
          (asciiNamed? (String.ofList (text.takeWhile (· != ':')))).map (·, negated, rest)
      | _ => none
  | _ => none

/-- The negation of a set. Where Unicode is off it would need bytes. -/
def negate (flags : PatternFlags) (negated : Bool) (s : CharSet) : Except PatternError CharSet :=
  if !negated then .ok s
  else if flags.unicode then .ok (.compl s)
  else .error .needsBytes

/-- Signs between unions. -/
inductive Operation where
  | inter
  | diff
  | symmDiff

/-- What has been read of a set in brackets: the members of the union that is
being read, the latest first, and the union before it with the sign between. -/
structure Pending where
  members : List WrittenSet
  left : Option (Operation × WrittenSet)

namespace Pending

/-- The union of the members. -/
def union (p : Pending) : WrittenSet :=
  match p.members with
  | [] => ⟨.none, 0⟩
  | [s] => s
  | members =>
      ⟨.unions (members.reverse.map (·.set)), 1 + members.foldl (fun d s => max d s.depth) 0⟩

/-- All that has been read as one set. -/
def close (flags : PatternFlags) (p : Pending) : WrittenSet :=
  let right := p.union
  match p.left with
  | none => right
  | some (operation, left) =>
      let s := flags.folded left.set
      let t := flags.folded right.set
      let combined := match operation with
        | .inter => s.inter t
        | .diff => s.diff t
        | .symmDiff => s.symmDiff t
      ⟨combined, 1 + max left.depth right.depth⟩

/-- Begins a new union behind a sign. -/
def operate (flags : PatternFlags) (p : Pending) (operation : Operation) : Pending :=
  ⟨[], some (operation, p.close flags)⟩

/-- One more member. -/
def add (p : Pending) (s : WrittenSet) : Pending := ⟨s :: p.members, p.left⟩

end Pending

/-- Reads one character or escape of a set. -/
def readItem (flags : PatternFlags) :
    List Char → Except PatternError (PatternEscape × List Char)
  | [] => .error .setUnclosed
  | '\\' :: rest => PatternEscape.read flags rest
  | c :: rest => .ok (.character c, rest)

/-- The set an item stands for. -/
def itemSet (flags : PatternFlags) : PatternEscape → Except PatternError CharSet
  | .character c =>
      if flags.unicode || c.toNat < 0x80 then .ok (.single c) else .error .needsUnicode
  | .set s => .ok s
  | .condition _ => .error .setMemberInvalid

/-- The character an item stands for, as the end of a stretch. -/
def itemCharacter (flags : PatternFlags) : PatternEscape → Except PatternError Char
  | .character c =>
      if flags.unicode || c.toNat < 0x80 then .ok c else .error .needsUnicode
  | _ => .error .setMemberInvalid

/-- Reads an item, or a stretch between two items. -/
def readMember (flags : PatternFlags) (text : List Char) :
    Except PatternError (CharSet × List Char) := do
  let (first, rest) ← readItem flags text
  match flags.skip rest with
  | [] => .error .setUnclosed
  | c :: tail =>
      let after := (flags.skip tail).head?
      if c ≠ '-' ∨ after = some ']' ∨ after = some '-' then
        return (← itemSet flags first, c :: tail)
      else
        let (last, rest) ← readItem flags (flags.skip tail)
        let low ← itemCharacter flags first
        let high ← itemCharacter flags last
        if low ≤ high then return (.range low high, rest) else .error .setRangeReversed

/-- Takes the hyphens a set may begin with. -/
def readHyphens (flags : PatternFlags) (p : Pending) :
    Nat → List Char → Except PatternError (Pending × List Char)
  | 0, _ => .error .setUnclosed
  | fuel + 1, text =>
      match text with
      | [] => .error .setUnclosed
      | c :: rest =>
          if c = '-' then readHyphens flags (p.add ⟨.single '-', 0⟩) fuel (flags.skip rest)
          else if c = ']' ∧ p.members.isEmpty then .ok (p.add ⟨.single ']', 0⟩, flags.skip rest)
          else .ok (p, c :: rest)

mutual

/-- Reads a set behind its opening bracket. -/
def read (flags : PatternFlags) :
    Nat → List Char → Except PatternError (WrittenSet × List Char)
  | 0, _ => .error .setUnclosed
  | fuel + 1, text => do
      let text := flags.skip text
      let (negated, text) := match text with
        | '^' :: rest => (true, flags.skip rest)
        | _ => (false, text)
      let (p, text) ← readHyphens flags ⟨[], none⟩ (text.length + 1) text
      let (inner, rest) ← readMembers flags fuel p text
      let s ← negate flags negated (flags.folded inner.set)
      return (⟨s, 1 + inner.depth⟩, rest)

/-- Reads the members of a set up to its closing bracket. -/
def readMembers (flags : PatternFlags) :
    Nat → Pending → List Char → Except PatternError (WrittenSet × List Char)
  | 0, _, _ => .error .setUnclosed
  | fuel + 1, p, text =>
      match flags.skip text with
      | [] => .error .setUnclosed
      | ']' :: rest => .ok (p.close flags, rest)
      | '&' :: '&' :: rest => readMembers flags fuel (p.operate flags .inter) rest
      | '-' :: '-' :: rest => readMembers flags fuel (p.operate flags .diff) rest
      | '~' :: '~' :: rest => readMembers flags fuel (p.operate flags .symmDiff) rest
      | '[' :: rest =>
          match readAscii? rest with
          | some (s, negated, rest) => do
              let s ← negate flags negated (flags.folded s)
              readMembers flags fuel (p.add ⟨s, 0⟩) rest
          | none => do
              let (s, rest) ← read flags fuel rest
              readMembers flags fuel (p.add s) rest
      | text => do
          let (s, rest) ← readMember flags text
          readMembers flags fuel (p.add ⟨s, 0⟩) rest

end

end WrittenSet

end Highlight
