import Highlight.Pattern.Written.Read
import Highlight.Pattern.Places
import Highlight.Token.Basic

/-!
# Rules

A rule says which stretches of a text belong to a lexical category: those its
pattern finds. It may add an alias, and it may have rules of its own that cut
the text it has found further.

A rule that is not greedy looks at one piece of plain text at a time and sees
nothing outside it. A greedy rule looks at the whole text; it begins in plain
text and may take over what earlier rules have found behind that.
-/

namespace Highlight

set_option autoImplicit false

/-- How the tokens of a lexical category are found. -/
structure Rule where
  category : String
  pattern : Pattern
  greedy : Bool := false
  secondName : Option String := none
  inside : Option (List Rule) := none

namespace Rule

/-- A rule whose pattern is given in writing. -/
def read (category pattern : String) (greedy : Bool) (secondName : Option String)
    (inside : Option (List Rule)) : Except PatternError Rule :=
  (Pattern.read pattern).map fun p => ⟨category, p, greedy, secondName, inside⟩

/-- The first span from a place on that the rule finds in a text. -/
def find (rule : Rule) (text : Array Char) (place : Nat) : Option Span :=
  rule.pattern.find text place

end Rule

end Highlight
