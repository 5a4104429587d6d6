import Highlight.Proofs.Grammar.Isolation
import Highlight.Proofs.Pattern.Shifting

/-!
# A first rule, greedy or not

The first rule of a grammar finds the whole text in one piece of plain text. Being greedy
changes two things for it. It searches the whole text from a place on, and not what stands
from there on as a text of its own. And what it finds may end in a later piece than it began
in, but there is none.

So for a pattern that asks for no condition on a place both ways of carving are the same scan:
where nothing is found the rest stays plain, and otherwise they go on behind what is found
(`Piece.carve_rest_of_find`, `Piece.row_of_find`). They come to the same pieces
(`Piece.row_eq_carve`), and the grammar to the same tokens (`Grammar.tokenize_first_greedy`).
-/

namespace Highlight

set_option autoImplicit false

namespace Piece

variable {pattern : Pattern} {make : Array Char → Token} {text : Array Char}

/-! ## Carving the rest of a text in isolation -/

section Rest

variable (noAssertion : pattern.hasAssertion = false) {place : Nat}
include noAssertion

/-- Where nothing is found from a place on, the rest stays plain. -/
theorem carve_rest_of_find_none (nothing : pattern.find text place = none) :
    carve pattern make text (plainUnlessEmpty ⟨place, text.size⟩) =
      plainUnlessEmpty ⟨place, text.size⟩ := by
  rcases Nat.lt_or_ge place text.size with inside | past
  · apply carve_of_find_none
    rw [Pattern.find_eq_find_rest noAssertion (Nat.le_of_lt inside)] at nothing
    exact Option.map_eq_none_iff.1 nothing
  · have empty : plainUnlessEmpty ⟨place, text.size⟩ = [] := if_neg (Nat.not_lt.2 past)
    rw [empty]
    rfl

/-- **What is found in the text from a place on is cut out of the rest**, and what stands
behind it is a rest again. -/
theorem carve_rest_of_find {found : Span} (isFound : pattern.find text place = some found) :
    carve pattern make text (plainUnlessEmpty ⟨place, text.size⟩) =
      plainUnlessEmpty ⟨place, found.start⟩ ++
        token found (make (found.slice text)) ::
          carve pattern make text (plainUnlessEmpty ⟨found.stop, text.size⟩) := by
  have bounds := Pattern.find_bounds isFound
  rw [Pattern.find_eq_find_rest noAssertion (by omega), Option.map_eq_some_iff] at isFound
  obtain ⟨own, isOwn, rfl⟩ := isFound
  exact carve_of_find isOwn

/-- **The rest of a text is carved greedily as in isolation.** -/
theorem row_eq_carve :
    row pattern make text place =
      carve pattern make text (plainUnlessEmpty ⟨place, text.size⟩) := by
  induction left : text.size - place using Nat.strongRecOn generalizing place with
  | ind left ih =>
      cases isFound : pattern.find text place with
      | none => rw [row_of_find_none isFound, carve_rest_of_find_none noAssertion isFound]
      | some found =>
          have bounds := Pattern.find_bounds isFound
          have behind := ih (text.size - found.stop) (by omega) rfl
          rw [row_of_find isFound, carve_rest_of_find noAssertion isFound, behind]

end Rest

end Piece

/-! ## The first rule of a grammar -/

namespace Rule

/-- A rule makes the same tokens whether or not it is greedy. -/
theorem token_greedy (rule : Rule) (greedy : Bool) :
    ({ rule with greedy := greedy } : Rule).token = rule.token := by
  funext found
  cases rule
  rw [token, token]

/-- A first rule without conditions leaves the same pieces to the rules behind it, greedy or
not. -/
theorem applyAll_first_greedy {rule : Rule} (noAssertion : rule.pattern.hasAssertion = false)
    (rest : List Rule) (text : Array Char) :
    applyAll ({ rule with greedy := true } :: rest) text (Piece.start text) =
      applyAll ({ rule with greedy := false } :: rest) text (Piece.start text) := by
  have same : Piece.carveGreedy rule.pattern rule.token text (Piece.start text) =
      Piece.carve rule.pattern rule.token text (Piece.start text) :=
    Piece.row_eq_carve noAssertion
  rw [applyAll, applyAll, token_greedy, token_greedy, if_pos rfl, if_neg Bool.false_ne_true]
  exact congrArg (applyAll rest text) same

end Rule

/-- **A grammar whose first rule asks for no condition on a place makes the same tokens whether
or not that rule is greedy.** -/
theorem Grammar.tokenize_first_greedy (g : Grammar) (rule : Rule) (rest : List Rule)
    (text : String) (noAssertion : rule.pattern.hasAssertion = false) :
    ({ g with rules := { rule with greedy := true } :: rest } : Grammar).tokenize text =
      ({ g with rules := { rule with greedy := false } :: rest } : Grammar).tokenize text := by
  rw [tokenize, tokenizeCharacters, Rule.applyAll_first_greedy noAssertion]
  rfl

/-- Letters `b` behind a letter `a` that is no part of the token, each a token by itself. -/
def tailRule : Rule where
  category := "tail"
  pattern := .cat (.char 'a') (.token (.many (.char 'b')))
  secondName := some "letters"
  inside := some [{ category := "letter", pattern := .char 'b' }]

/-- The first `a` has no tail, so its empty token is passed over; the other stays plain. -/
theorem Grammar.tokenize_first_greedy_tails :
    tailRule.pattern.hasAssertion = false ∧
      ({ name := "tails", rules := [{ tailRule with greedy := true }] } : Grammar).tokenize "aab" =
        ({ name := "tails", rules := [{ tailRule with greedy := false }] } : Grammar).tokenize
          "aab" ∧
      ({ name := "tails", rules := [{ tailRule with greedy := false }] } : Grammar).tokenize
          "aab" =
        [.literal "aa", .node "tail" (some "letters") [.leaf "letter" none "b"]] :=
  ⟨rfl, tokenize_first_greedy { name := "tails" } tailRule [] "aab" rfl, by cbv⟩

/-- A letter `a` at the beginning of a text: `^a`. -/
def startRule (greedy : Bool) : Rule :=
  ⟨"letter", .cat (.assert .textStart) (.char 'a'), greedy, none, none⟩

/-- With a condition on a place it does matter: in isolation every rest begins like a text. -/
example :
    ({ name := "letters", rules := [startRule true] } : Grammar).tokenize "aa" =
        [.leaf "letter" none "a", .literal "a"] ∧
      ({ name := "letters", rules := [startRule false] } : Grammar).tokenize "aa" =
        [.leaf "letter" none "a", .leaf "letter" none "a"] :=
  ⟨by cbv, by cbv⟩

end Highlight
