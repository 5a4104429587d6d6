import Highlight.Language.All
import Highlight.Proofs.Grammar.Partition
import Highlight.Proofs.Token.RoundTrip

/-!
# How deep a grammar's tokens are nested

A token has tokens inside only if a rule with rules inside has made it. So tokens are
nested no deeper than the rules of their grammar, whatever the text is, and their aliases
are those of the rules (`Token.tame_of_madeBy`, `Grammar.tame_tokenize`). Each level of
rules brings two levels of JSON, an object and an array.

If the rules of a grammar are nested within reason and none of their aliases is empty, the
tokens of every text are therefore read back from their print as they are
(`Grammar.parse_printSpread_tokenize`). The languages that are known from the start have
such rules (`Language.plain_grammars`).
-/

namespace Highlight

set_option autoImplicit false

/-! ## Rules in rules -/

mutual

/-- How many levels of rules are inside a rule. -/
def Rule.depth : Rule → Nat
  | ⟨_, _, _, _, inside⟩ => Rule.depthInside inside

/-- How many levels of rules there are, if there are rules inside at all. -/
def Rule.depthInside : Option (List Rule) → Nat
  | none => 0
  | some inner => Rule.depthAll inner + 1

/-- The levels of rules inside the deepest of some rules. -/
def Rule.depthAll : List Rule → Nat
  | [] => 0
  | rule :: rest => max rule.depth (Rule.depthAll rest)

end

mutual

/-- The aliases that a rule and the rules inside it give. -/
def Rule.secondNames : Rule → List String
  | ⟨_, _, _, secondName, inside⟩ => secondName.toList ++ Rule.secondNamesInside inside

/-- The aliases that rules inside a rule give, if there are any. -/
def Rule.secondNamesInside : Option (List Rule) → List String
  | none => []
  | some inner => Rule.secondNamesAll inner

/-- The aliases that some rules and the rules inside them give. -/
def Rule.secondNamesAll : List Rule → List String
  | [] => []
  | rule :: rest => rule.secondNames ++ Rule.secondNamesAll rest

end

namespace Rule

theorem depth_le_depthAll {rules : List Rule} {rule : Rule} (member : rule ∈ rules) :
    rule.depth ≤ depthAll rules := by
  induction rules with
  | nil => exact absurd member List.not_mem_nil
  | cons first rest ih =>
      rw [depthAll]
      rcases List.mem_cons.1 member with rfl | later
      · exact Nat.le_max_left _ _
      · exact Nat.le_trans (ih later) (Nat.le_max_right _ _)

theorem mem_secondNamesAll {rules : List Rule} {rule : Rule} (member : rule ∈ rules)
    {name : String} (given : name ∈ rule.secondNames) : name ∈ secondNamesAll rules := by
  induction rules with
  | nil => exact absurd member List.not_mem_nil
  | cons first rest ih =>
      rw [secondNamesAll, List.mem_append]
      rcases List.mem_cons.1 member with rfl | later
      · exact Or.inl given
      · exact Or.inr (ih later)

/-- The rules inside a rule have a level less than the rule. -/
theorem depth_eq_of_inside {rule : Rule} {inner : List Rule} (isInside : rule.inside = some inner) :
    rule.depth = depthAll inner + 1 := by
  obtain ⟨category, pattern, greedy, secondName, inside⟩ := rule
  cases isInside
  rfl

theorem secondNames_eq (rule : Rule) :
    rule.secondNames = rule.secondName.toList ++ secondNamesInside rule.inside := by
  cases rule
  rfl

/-- If no alias of some rules is empty, then neither is that of one of them, nor those of the
rules inside it. -/
theorem named_of_mem {rules : List Rule} (named : "" ∉ secondNamesAll rules) {rule : Rule}
    (member : rule ∈ rules) :
    rule.secondName ≠ some "" ∧
      ∀ inner, rule.inside = some inner → "" ∉ secondNamesAll inner := by
  have own : "" ∉ rule.secondNames := fun given => named (mem_secondNamesAll member given)
  rw [secondNames_eq, List.mem_append, not_or] at own
  refine ⟨fun empty => own.1 (Option.mem_toList.2 empty), ?_⟩
  intro inner isInside
  rw [isInside] at own
  exact own.2

end Rule

/-! ## Tokens in tokens -/

namespace Token

mutual

/-- **A token is nested no deeper than the rules that make it**, counted in levels of JSON,
and has no alias that they do not give. -/
theorem tame_of_madeBy {rules : List Rule} (named : "" ∉ Rule.secondNamesAll rules)
    {text : Array Char} {span : Span} :
    ∀ t : Token, t.MadeBy rules text span → t.Tame (2 * Rule.depthAll rules + 1)
  | literal _, _ => ⟨Nat.zero_le _, List.not_mem_nil⟩
  | leaf category secondName raw, madeBy => by
      rw [MadeBy] at madeBy
      obtain ⟨_, rule, member, _, _, rfl, _⟩ := madeBy
      have plain : (Content.text raw).Tame 0 := ⟨Nat.le_refl _, List.not_mem_nil⟩
      have own := plain.ofContent (Rule.named_of_mem named member).1 category
      exact own.mono (Nat.le_add_left _ _)
  | node category secondName children, madeBy => by
      rw [MadeBy] at madeBy
      obtain ⟨rule, member, _, _, rfl, inner, isInside, _, areMade⟩ := madeBy
      obtain ⟨given, namedInside⟩ := Rule.named_of_mem named member
      have content := tame_tokens (tame_of_allMadeBy (namedInside inner isInside) children areMade)
      have depth := Rule.depth_le_depthAll member
      rw [Rule.depth_eq_of_inside isInside] at depth
      exact (content.ofContent given category).mono (by omega)

theorem tame_of_allMadeBy {rules : List Rule} (named : "" ∉ Rule.secondNamesAll rules)
    {text : Array Char} {start : Nat} :
    ∀ ts : List Token, AllMadeBy rules text start ts →
      ∀ t ∈ ts, t.Tame (2 * Rule.depthAll rules + 1)
  | [], _ => List.forall_mem_nil _
  | t :: rest, areMade => by
      rw [AllMadeBy] at areMade
      refine List.forall_mem_cons.2 ⟨tame_of_madeBy named t areMade.1, ?_⟩
      exact tame_of_allMadeBy named rest areMade.2

end

end Token

/-! ## Grammars -/

namespace Grammar

/-- A grammar is plain if its rules are nested within reason and give no empty alias. -/
structure Plain (g : Grammar) : Prop where
  shallow : 2 * Rule.depthAll g.rules + 2 ≤ Json.levelLimit
  named : "" ∉ Rule.secondNamesAll g.rules

instance (g : Grammar) : Decidable g.Plain :=
  decidable_of_iff (_ ∧ _) ⟨fun parts => ⟨parts.1, parts.2⟩, fun plain => ⟨plain.1, plain.2⟩⟩

/-- The tokens of any text are nested as deep as the rules allow. -/
theorem tame_tokenize {g : Grammar} (named : "" ∉ Rule.secondNamesAll g.rules) (text : String) :
    (Token.Content.tokens (g.tokenize text)).Tame (2 * Rule.depthAll g.rules + 2) := by
  have areMade := (Rule.partition_of_makes (fun rule (_ : rule ∈ g.rules) => rule.makes)
    (charactersOf text)).2
  exact Token.tame_tokens (Token.tame_of_allMadeBy named _ areMade)

/-- **A plain grammar's tokens are read back** from their print spread over lines. -/
theorem Plain.parse_printSpread_tokenize {g : Grammar} (plain : g.Plain) (text : String) :
    Token.parse (Token.printSpread (g.tokenize text) ++ "\n") = .ok (g.tokenize text) := by
  have tame := tame_tokenize plain.named text
  rw [Token.parse_printSpread (Nat.le_trans tame.levels plain.shallow),
    Token.withoutEmptyAliasesAll_of_notMem _ tame.aliases]

end Grammar

/-- The languages that are known from the start have plain grammars. -/
theorem Language.plain_grammars : ∀ g ∈ Language.grammars, g.Plain := by
  decide +kernel

end Highlight
