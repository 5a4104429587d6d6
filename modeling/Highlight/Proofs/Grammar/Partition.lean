import Highlight.Grammar.Registry
import Highlight.Proofs.Grammar.Pieces

/-!
# Tokenizing partitions the text

The tokens that rules make of a text lie end to end and cover it, each of them
covers at least one character, and without greedy rules no two literals stand side
by side (`Token.Level`). A literal is the text it stands for. Every other token was
made by one of the rules of a span that the rule had found, and if the rule has
rules of its own, the tokens inside are made by these of that very span, with all
that this implies (`Token.MadeBy`).

This holds of every grammar and every text (`Grammar.partition_tokenize`). It is
proved for the pieces that some rules carve if the rules make what they should
(`partition_of_makes`), and then for rules by induction on how deep they are nested
(`Rule.makes`).
-/

namespace Highlight

set_option autoImplicit false

namespace Span

/-- The text of a span inside a text is as long as the span. -/
theorem length_text {text : Array Char} {span : Span} (inside : span.stop ≤ text.size) :
    (span.text text).length = span.stop - span.start := by
  rw [Span.text, stringOf, String.length_ofList, Array.length_toList, Span.slice,
    Array.size_extract, Nat.min_eq_left inside]

/-- The texts of two spans end to end. -/
theorem text_append (text : Array Char) {start middle stop : Nat} (low : start ≤ middle)
    (high : middle ≤ stop) :
    (⟨start, middle⟩ : Span).text text ++ (⟨middle, stop⟩ : Span).text text =
      (⟨start, stop⟩ : Span).text text := by
  simp only [Span.text, stringOf, Span.slice]
  rw [← String.ofList_append, ← Array.toList_append, Array.extract_append_extract,
    Nat.min_eq_left low, Nat.max_eq_right high]

theorem text_whole (text : Array Char) : (⟨0, text.size⟩ : Span).text text = stringOf text := by
  simp only [Span.text, Span.slice, Array.extract_size]

end Span

/-! ## What rules find -/

/-- A rule finds a span of a text: a greedy one by a search from some place on, any
other one by a search in a part of the text, taken as a text of its own. -/
def Rule.Finds (rule : Rule) (text : Array Char) (span : Span) : Prop :=
  if rule.greedy then ∃ place, rule.find text place = some span
  else ∃ region found : Span, region.stop ≤ text.size ∧
    rule.find (region.slice text) 0 = some found ∧ span = found.shift region.start

/-- What holds of a rule if it holds of its inner rules holds of every rule. -/
theorem Rule.induction {P : Rule → Prop}
    (step : ∀ rule : Rule, (∀ inner, rule.inside = some inner → ∀ r ∈ inner, P r) → P rule)
    (rule : Rule) : P rule :=
  step rule fun inner _isInner r _member => Rule.induction step r
termination_by rule
decreasing_by
  have smaller := List.sizeOf_lt_of_mem _member
  cases rule
  cases _isInner
  simp only [Rule.mk.sizeOf_spec, Option.some.sizeOf_spec]
  omega

/-! ## Partitions -/

namespace Token

/-- A row of tokens covers a text, each of them covers something, and if no rule is
greedy, no two literals stand side by side. -/
structure Level (rules : List Rule) (text : Array Char) (tokens : List Token) : Prop where
  text : textAll tokens = stringOf text
  nonempty : ∀ t ∈ tokens, 0 < t.length
  apart : (∀ rule ∈ rules, rule.greedy = false) →
    tokens.IsChain fun s t => s.category? ≠ none ∨ t.category? ≠ none

mutual

/-- A token is the text of a span, or some rule has found that span and made the
token of it. -/
def MadeBy (rules : List Rule) (text : Array Char) (span : Span) : Token → Prop
  | literal t => t = span.text text
  | leaf category secondName t =>
      t = span.text text ∧ ∃ rule ∈ rules, rule.Finds text span ∧ rule.category = category ∧
        rule.secondName = secondName ∧ rule.inside = none
  | node category secondName children =>
      ∃ rule ∈ rules, rule.Finds text span ∧ rule.category = category ∧
        rule.secondName = secondName ∧ ∃ inner, rule.inside = some inner ∧
          Level inner (span.slice text) children ∧ AllMadeBy inner (span.slice text) 0 children

/-- Tokens that lie end to end from a place on are made by rules, each of the span
it covers. -/
def AllMadeBy (rules : List Rule) (text : Array Char) (start : Nat) : List Token → Prop
  | [] => True
  | t :: rest =>
      MadeBy rules text ⟨start, start + t.length⟩ t ∧
        AllMadeBy rules text (start + t.length) rest

end

/-- A token that a rule has made of a span. -/
structure Carved (rules : List Rule) (text : Array Char) (span : Span) (t : Token) : Prop where
  madeBy : t.MadeBy rules text span
  category : t.category? ≠ none
  text : t.text = span.text text

end Token

/-- A rule makes what it should of every span that it finds. -/
def Rule.Makes (rule : Rule) : Prop :=
  ∀ (rules : List Rule) (text : Array Char) (span : Span), rule ∈ rules → rule.Finds text span →
    Token.Carved rules text span (rule.token (span.slice text))

/-! ## From pieces to tokens -/

namespace Piece

variable {rules : List Rule} {text : Array Char}

/-- A piece becomes a token of its text. -/
theorem Made.toToken {piece : Piece} (isMade : piece.Made (Token.Carved rules text)) :
    (piece.toToken text).text = piece.span.text text ∧
      (piece.toToken text).MadeBy rules text piece.span := by
  cases piece with
  | plain span =>
      refine ⟨rfl, ?_⟩
      rw [Piece.toToken, Token.MadeBy]
      rfl
  | token span t => exact ⟨isMade.text, isMade.madeBy⟩

theorem Made.length_toToken {piece : Piece} (isMade : piece.Made (Token.Carved rules text))
    (inside : piece.span.stop ≤ text.size) :
    (piece.toToken text).length = piece.span.stop - piece.span.start := by
  rw [← Token.length_text, isMade.toToken.1, Span.length_text inside]

/-- What has become a token is no literal. -/
theorem Made.category?_toToken {piece : Piece} (isMade : piece.Made (Token.Carved rules text))
    (isToken : piece.isToken = true) : (piece.toToken text).category? ≠ none := by
  cases piece with
  | plain span => cases isToken
  | token span t => exact isMade.category

namespace Tiles

variable {start stop : Nat} {pieces : List Piece}
  (tiles : Tiles (Token.Carved rules text) start pieces stop)
include tiles

theorem textAll : Token.textAll (pieces.map (toToken text)) = (⟨start, stop⟩ : Span).text text := by
  induction tiles with
  | nil place => simp [Token.textAll, Span.text, Span.slice, stringOf]
  | @cons start stop piece rest begins proper isMade later ih =>
      subst begins
      rw [List.map_cons, Token.textAll, isMade.toToken.1, ih]
      exact Span.text_append text (Nat.le_of_lt proper) later.le

theorem forall_made : ∀ piece ∈ pieces, piece.Made (Token.Carved rules text) := by
  induction tiles with
  | nil place => exact fun _ member => absurd member List.not_mem_nil
  | cons begins proper isMade later ih => exact List.forall_mem_cons.2 ⟨isMade, ih⟩

theorem nonempty (inside : stop ≤ text.size) :
    ∀ t ∈ pieces.map (toToken text), 0 < t.length := by
  induction tiles with
  | nil place => exact fun _ member => absurd member List.not_mem_nil
  | @cons start stop piece rest begins proper isMade later ih =>
      have length := isMade.length_toToken (Nat.le_trans later.le inside)
      exact List.forall_mem_cons.2 ⟨by omega, ih inside⟩

theorem allMadeBy (inside : stop ≤ text.size) :
    Token.AllMadeBy rules text start (pieces.map (toToken text)) := by
  induction tiles with
  | nil place => exact trivial
  | @cons start stop piece rest begins proper isMade later ih =>
      have length := isMade.length_toToken (Nat.le_trans later.le inside)
      have ends : start + (piece.toToken text).length = piece.span.stop := by omega
      subst begins
      rw [List.map_cons, Token.AllMadeBy, ends]
      exact ⟨isMade.toToken.2, ih inside⟩

/-- Pieces apart become tokens of which no two literals stand side by side. -/
theorem isChain_toToken (chain : pieces.IsChain Apart) :
    (pieces.map (toToken text)).IsChain fun s t => s.category? ≠ none ∨ t.category? ≠ none := by
  have made := tiles.forall_made
  refine (List.isChain_map _).2 (chain.imp_of_mem_imp ?_)
  intro p q memberP memberQ apart
  rcases apart with isToken | isToken
  · exact Or.inl ((made p memberP).category?_toToken isToken)
  · exact Or.inr ((made q memberQ).category?_toToken isToken)

end Tiles

end Piece

/-! ## Rules one after the other -/

namespace Rule

/-- What holds of every token that some rules make of a span they have found holds of all that
applying them makes, and the pieces stay end to end. -/
theorem tiles_applyAll_of_makes {made : Span → Token → Prop} {text : Array Char}
    (rules : List Rule)
    (makes : ∀ rule ∈ rules, ∀ span, rule.Finds text span →
      made span (rule.token (span.slice text)))
    {pieces : List Piece} (tiles : Piece.Tiles made 0 pieces text.size) :
    Piece.Tiles made 0 (applyAll rules text pieces) text.size := by
  induction rules generalizing pieces with
  | nil => exact tiles
  | cons rule rest ih =>
      have member : rule ∈ rule :: rest := List.mem_cons_self
      simp only [applyAll]
      refine ih (fun r m => makes r (List.mem_cons_of_mem _ m)) ?_
      split
      · next greedy =>
        refine tiles.carveGreedy ?_
        intro place found isFound
        refine makes rule member found ?_
        rw [Rule.Finds, if_pos greedy]
        exact ⟨place, isFound⟩
      · next alone =>
        refine tiles.carve ?_ (Nat.le_refl _)
        intro region found inside isFound
        refine makes rule member (found.shift region.start) ?_
        rw [Rule.Finds, if_neg alone]
        exact ⟨region, found, inside, isFound, rfl⟩

/-- Applying rules that make what they should keeps pieces end to end. -/
theorem tiles_applyAll {all : List Rule} {text : Array Char} (rules : List Rule)
    (among : ∀ rule ∈ rules, rule ∈ all) (makes : ∀ rule ∈ rules, rule.Makes)
    {pieces : List Piece} (tiles : Piece.Tiles (Token.Carved all text) 0 pieces text.size) :
    Piece.Tiles (Token.Carved all text) 0 (applyAll rules text pieces) text.size := by
  apply tiles_applyAll_of_makes rules _ tiles
  intro rule member span finds
  exact makes rule member all text span (among rule member) finds

/-- Applying rules of which none is greedy keeps plain text apart. -/
theorem isChain_applyAll (text : Array Char) (rules : List Rule)
    (alone : ∀ rule ∈ rules, rule.greedy = false) {pieces : List Piece}
    (chain : pieces.IsChain Piece.Apart) :
    (applyAll rules text pieces).IsChain Piece.Apart := by
  induction rules generalizing pieces with
  | nil => exact chain
  | cons rule rest ih =>
      have notGreedy : ¬ rule.greedy = true := by
        rw [alone rule List.mem_cons_self]
        exact Bool.false_ne_true
      simp only [applyAll, if_neg notGreedy]
      exact ih (fun r m => alone r (List.mem_cons_of_mem _ m)) (Piece.isChain_carve _ _ text chain)

theorem isChain_start (text : Array Char) : (Piece.start text).IsChain Piece.Apart := by
  simp only [Piece.start, Piece.plainUnlessEmpty]
  split
  · exact .singleton _
  · exact .nil

/-- Rules that make what they should partition every text. -/
theorem partition_of_makes {rules : List Rule} (makes : ∀ rule ∈ rules, rule.Makes)
    (text : Array Char) :
    Token.Level rules text ((applyAll rules text (Piece.start text)).map (Piece.toToken text)) ∧
      Token.AllMadeBy rules text 0
        ((applyAll rules text (Piece.start text)).map (Piece.toToken text)) := by
  have tiles : Piece.Tiles (Token.Carved rules text) 0 (applyAll rules text (Piece.start text))
      text.size :=
    tiles_applyAll rules (fun _ member => member) makes (Piece.tiles_start text)
  have inside : text.size ≤ text.size := Nat.le_refl _
  refine ⟨⟨?_, tiles.nonempty inside, ?_⟩, tiles.allMadeBy inside⟩
  · rw [tiles.textAll, Span.text_whole]
  · intro alone
    exact tiles.isChain_toToken (isChain_applyAll text rules alone (isChain_start text))

/-- **Every rule makes what it should**, whatever rules it has inside. -/
theorem makes (rule : Rule) : rule.Makes := by
  induction rule using Rule.induction with
  | step rule ih =>
      obtain ⟨category, pattern, greedy, secondName, inside⟩ := rule
      intro rules text span member finds
      cases inside with
      | none =>
          refine ⟨?_, Option.some_ne_none _, rfl⟩
          rw [token, tokenInside, Token.MadeBy]
          exact ⟨rfl, _, member, finds, rfl, rfl, rfl⟩
      | some inner =>
          obtain ⟨level, madeBy⟩ := partition_of_makes (ih inner rfl) (span.slice text)
          refine ⟨?_, Option.some_ne_none _, level.text⟩
          rw [token, tokenInside, Token.MadeBy]
          exact ⟨_, member, finds, rfl, rfl, inner, rfl, level, madeBy⟩

/-- The token that a rule makes has the text it was made of. -/
theorem text_token (rule : Rule) (found : Array Char) :
    (rule.token found).text = stringOf found := by
  obtain ⟨category, pattern, greedy, secondName, inside⟩ := rule
  cases inside with
  | none => rfl
  | some inner =>
      rw [token, tokenInside, Token.text]
      exact (partition_of_makes (fun rule _ => rule.makes) found).1.text

end Rule

/-! ## Grammars -/

namespace Grammar

/-- The tokens of a text have the text. -/
theorem textAll_tokenize (g : Grammar) (text : String) :
    Token.textAll (g.tokenize text) = text := by
  have made : ∀ rule ∈ g.rules, rule.Makes := fun rule _ => rule.makes
  have level := (Rule.partition_of_makes made (charactersOf text)).1
  exact level.text.trans (stringOf_charactersOf text)

/-- **Tokenizing partitions the text.** Every grammar's tokens have the text that
was tokenized. At each level of the tree they have the text that is cut there, none
of them is empty, and no two literals stand side by side unless a rule of the level
is greedy. Every token was made by a rule of its level of a span that the rule had
found, and the level below cuts that span. -/
theorem partition_tokenize (g : Grammar) (text : String) :
    Token.textAll (g.tokenize text) = text ∧
      Token.Level g.rules (charactersOf text) (g.tokenize text) ∧
      Token.AllMadeBy g.rules (charactersOf text) 0 (g.tokenize text) :=
  ⟨g.textAll_tokenize text, Rule.partition_of_makes (fun rule _ => rule.makes) (charactersOf text)⟩

end Grammar

end Highlight
