import Highlight.Text.CharSet

/-!
# Patterns

A pattern describes stretches of text: single characters out of a set,
conditions on a place between two characters, one pattern after another, a
choice in which the first alternative is preferred, and repetition that takes
as much or as little as it can.

A part of a pattern can be singled out as the token. Where that part takes part
in a match, the match stands for its token only, and the text around it is
context.

Repetition comes in three forms. A run repeats a set of characters, which is the
common case; a star repeats an arbitrary pattern, and a plus does so at least
once. Counted repetition is written out by the functions at the end of this
module.
-/

namespace Highlight

set_option autoImplicit false

/-- A condition on a place in a text. Those on words take the set of characters
that words are made of. -/
inductive Assertion where
  | textStart
  | textEnd
  | lineStart
  | lineEnd
  | returnLineStart
  | returnLineEnd
  | wordEdge (words : CharSet)
  | noWordEdge (words : CharSet)
  | wordStart (words : CharSet)
  | wordEnd (words : CharSet)
  | noWordBefore (words : CharSet)
  | noWordAfter (words : CharSet)
deriving DecidableEq

/-- A description of stretches of text. -/
inductive Pattern where
  | empty
  | one (s : CharSet)
  | assert (a : Assertion)
  | cat (p q : Pattern)
  | alt (p q : Pattern)
  | run (greedy : Bool) (s : CharSet)
  | star (greedy : Bool) (p : Pattern)
  | plus (greedy : Bool) (p : Pattern)
  | token (p : Pattern)
deriving DecidableEq, Inhabited

namespace Assertion

/-- Whether the character of a place, if there is one, belongs to a set. -/
def meets (s : CharSet) : Option Char → Bool
  | none => false
  | some c => s.contains c

/-- Whether the condition is met between two neighbouring characters, `none`
being the border of the text. -/
def holdsBetween : Assertion → Option Char → Option Char → Bool
  | textStart, before, _ => before.isNone
  | textEnd, _, after => after.isNone
  | lineStart, before, _ => before.isNone || before == some '\n'
  | lineEnd, _, after => after.isNone || after == some '\n'
  | returnLineStart, before, after =>
      before.isNone || before == some '\n' || (before == some '\r' && after != some '\n')
  | returnLineEnd, before, after =>
      after.isNone || after == some '\r' || (after == some '\n' && before != some '\r')
  | wordEdge words, before, after => meets words before != meets words after
  | noWordEdge words, before, after => meets words before == meets words after
  | wordStart words, before, after => !meets words before && meets words after
  | wordEnd words, before, after => meets words before && !meets words after
  | noWordBefore words, before, _ => !meets words before
  | noWordAfter words, _, after => !meets words after

/-- The character before a place. -/
def charBefore (text : Array Char) (place : Nat) : Option Char :=
  if place = 0 then none else text[place - 1]?

/-- Whether the condition is met at a place of a text. -/
def holds (a : Assertion) (text : Array Char) (place : Nat) : Bool :=
  a.holdsBetween (charBefore text place) text[place]?

end Assertion

namespace Pattern

/-! ## Building patterns -/

instance : Append Pattern := ⟨cat⟩

instance : OrOp Pattern := ⟨alt⟩

/-- A pattern for one given character. -/
def char (c : Char) : Pattern := one (.single c)

/-- Any character but those of a list. -/
def noneOf (cs : List Char) : Pattern := one (.compl (.ofList cs))

/-- A character of a list. -/
def oneOf (cs : List Char) : Pattern := one (.ofList cs)

/-- One pattern after another. -/
def seq : List Pattern → Pattern
  | [] => empty
  | p :: rest => rest.foldl cat p

/-- The first alternative that fits, in the order of the list. -/
def choice : List Pattern → Pattern
  | [] => one .none
  | [p] => p
  | p :: rest => alt p (choice rest)

/-- A given text. -/
def literal (text : String) : Pattern := seq (text.toList.map char)

/-- One of some given texts. -/
def words (texts : List String) : Pattern := choice (texts.map literal)

/-- The pattern or nothing. -/
def opt (p : Pattern) : Pattern := alt p empty

/-- The pattern any number of times, as often as possible or as rarely as
possible. -/
def repeated (greedy : Bool) : Pattern → Pattern
  | one s => run greedy s
  | p => star greedy p

/-- The pattern at least once, as often as possible or as rarely as possible. -/
def repeated1 (greedy : Bool) : Pattern → Pattern
  | one s => cat (one s) (run greedy s)
  | p => plus greedy p

/-- As many repetitions as possible, or none. -/
def many (p : Pattern) : Pattern := repeated true p

/-- As many repetitions as possible, at least one, of a pattern that matches no empty
text. -/
def many1 (p : Pattern) : Pattern := cat p (many p)

/-- The pattern a given number of times. -/
def times (p : Pattern) : Nat → Pattern
  | 0 => empty
  | 1 => p
  | n + 1 => cat (times p n) p

/-- The pattern at most a given number of times. -/
def atMost (greedy : Bool) (p : Pattern) : Nat → Pattern
  | 0 => empty
  | n + 1 =>
      let more := match n with
        | 0 => p
        | _ => cat p (atMost greedy p n)
      if greedy then alt more empty else alt empty more

/-- The pattern at least `low` and at most `high` times. -/
def between (greedy : Bool) (p : Pattern) (low high : Nat) : Pattern :=
  if high ≤ low then times p low
  else if low = 0 then atMost greedy p high
  else cat (times p low) (atMost greedy p (high - low))

/-- The pattern at least a given number of times. -/
def atLeast (greedy : Bool) (p : Pattern) : Nat → Pattern
  | 0 => repeated greedy p
  | 1 => repeated1 greedy p
  | low + 1 => cat (times p low) (repeated1 greedy p)

/-- Whether a pattern looks at the surroundings of what it matches. -/
def hasAssertion : Pattern → Bool
  | empty => false
  | one _ => false
  | assert _ => true
  | cat p q => p.hasAssertion || q.hasAssertion
  | alt p q => p.hasAssertion || q.hasAssertion
  | run _ _ => false
  | star _ p => p.hasAssertion
  | plus _ p => p.hasAssertion
  | token p => p.hasAssertion

end Pattern

end Highlight
