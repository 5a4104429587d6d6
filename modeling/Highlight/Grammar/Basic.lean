import Highlight.Grammar.Rule
import Highlight.Grammar.Piece

/-!
# Grammars

A grammar is a row of rules under a name, with further names and with the
extensions of the files it is meant for. To tokenize a text the rules are
applied in order, each to what the ones before it have left.

The text that a rule with rules of its own has found is tokenized in the same
way by those rules, and so on to any depth.
-/

namespace Highlight

set_option autoImplicit false

mutual

/-- The token that a rule makes of the text it has found. -/
def Rule.token : Rule → Array Char → Token
  | ⟨category, _, _, secondName, inside⟩, found => Rule.tokenInside category secondName inside found

/-- A token over a text, cut further by inner rules if there are any. -/
def Rule.tokenInside (category : String) (secondName : Option String) :
    Option (List Rule) → Array Char → Token
  | none, found => .leaf category secondName (stringOf found)
  | some rules, found =>
      .node category secondName
        ((Rule.applyAll rules found (Piece.start found)).map (Piece.toToken found))

/-- The pieces that some rules, applied in order, make of the pieces of a
text. -/
def Rule.applyAll : List Rule → Array Char → List Piece → List Piece
  | [], _, pieces => pieces
  | rule :: rest, text, pieces =>
      Rule.applyAll rest text
        (if rule.greedy then Piece.carveGreedy rule.pattern (Rule.token rule) text pieces
          else Piece.carve rule.pattern (Rule.token rule) text pieces)

end

/-- A row of rules under a name. -/
structure Grammar where
  name : String
  aliases : List String := []
  extensions : List String := []
  rules : List Rule := []

namespace Grammar

/-- The grammar with one more rule at the end. A rule whose pattern was refused
is left out. -/
def add (g : Grammar) (rule : Except PatternError Rule) : Grammar :=
  match rule with
  | .ok rule => { g with rules := g.rules ++ [rule] }
  | .error _ => g

/-- The tokens of a text given by its characters. -/
def tokenizeCharacters (g : Grammar) (text : Array Char) : List Token :=
  (Rule.applyAll g.rules text (Piece.start text)).map (Piece.toToken text)

/-- The tokens of a text. -/
def tokenize (g : Grammar) (text : String) : List Token := g.tokenizeCharacters (charactersOf text)

end Grammar

end Highlight
