import Highlight.Proofs.Language.Enclosing
import Highlight.Proofs.Grammar.PlainText
import Highlight.Language.JavaScript
import Mathlib.Algebra.Group.Nat.Even
import Mathlib.Data.List.DropRight
import Mathlib.Data.List.Induction

/-!
# Template literals without interpolations

Between its backticks a template literal is read character by character, but a dollar sign takes
the character behind it along, which must not be a brace. So dollar signs that stand in a row are
read in pairs (`Language.JavaScript.parts_iff`), and if the body ends with an odd number of them,
the last one takes the closing backtick along: the literal is not closed and no token of one is
made. Otherwise the whole literal is one token, whatever is in its body
(`Language.JavaScript.tokenize_template`).
-/

namespace Highlight

set_option autoImplicit false

namespace Language

namespace JavaScript

open Pattern

/-! ## Dollar signs in a row -/

/-- How many dollar signs a row of characters ends with. -/
def closingDollars (cs : List Char) : Nat := (cs.rtakeWhile (· == '$')).length

theorem closingDollars_append (front rest : List Char) :
    closingDollars (front ++ rest) =
      if closingDollars rest = rest.length then rest.length + closingDollars front
      else closingDollars rest := by
  simp only [closingDollars, List.rtakeWhile, List.length_reverse, List.reverse_append,
    List.takeWhile_append]
  split
  · rw [List.length_append, List.length_reverse]
  · rfl

theorem closingDollars_single (c : Char) : closingDollars [c] = if c = '$' then 1 else 0 := by
  by_cases dollar : c = '$'
  · subst dollar
    rfl
  · have isOther : (c == '$') = false := beq_false_of_ne dollar
    simp only [closingDollars, List.rtakeWhile, List.reverse_singleton, List.takeWhile_cons,
      isOther, dollar, if_false, Bool.false_eq_true, List.reverse_nil, List.length_nil]

/-- Another character in front changes nothing. -/
theorem closingDollars_cons {c : Char} (other : c ≠ '$') (rest : List Char) :
    closingDollars (c :: rest) = closingDollars rest := by
  rw [← List.singleton_append, closingDollars_append, closingDollars_single, if_neg other]
  split
  · next all => exact all.symm
  · rfl

/-- A dollar sign and the character behind it change nothing about the rest being even. -/
theorem even_closingDollars_pair (c : Char) (rest : List Char) :
    Even (closingDollars ('$' :: c :: rest)) ↔ Even (closingDollars rest) := by
  have front : Even (closingDollars ['$', c]) := by
    have pair : ['$', c] = ['$'] ++ [c] := rfl
    rw [pair, closingDollars_append, closingDollars_single, closingDollars_single]
    by_cases dollar : c = '$'
    · simp only [dollar, if_true, List.length_singleton]
      exact ⟨1, rfl⟩
    · simp only [dollar, if_false, List.length_singleton]
      exact Even.zero
  have apart : '$' :: c :: rest = ['$', c] ++ rest := rfl
  rw [apart, closingDollars_append]
  split
  · next all => rw [Nat.even_add, iff_true_right front, all]
  · rfl

/-! ## The parts of a body -/

/-- What the body of a template literal is made of. -/
def templatePart : Pattern :=
  choice [
    char '\\' ++ any,
    interpolation,
    noneOf ['\\', backtick, '$'],
    char '$' ++ noneOf [openBrace]]

/-- A body that goes on to the backtick that closes the literal, with no interpolation in it. -/
structure IsPlain (body : List Char) : Prop where
  noEscape : '\\' ∉ body
  noBacktick : backtick ∉ body
  noInterpolation : ¬ ['$', openBrace] <:+: body

theorem IsPlain.of_suffix {body rest : List Char} (plain : IsPlain body) (isEnd : rest <:+ body) :
    IsPlain rest :=
  ⟨mt isEnd.mem plain.noEscape, mt isEnd.mem plain.noBacktick,
    fun inside => plain.noInterpolation (inside.trans isEnd.isInfix)⟩

/-- Without a brace there is no interpolation. -/
theorem isPlain_of_noBrace {body : List Char} (noEscape : '\\' ∉ body)
    (noBacktick : backtick ∉ body) (noBrace : openBrace ∉ body) : IsPlain body :=
  ⟨noEscape, noBacktick,
    fun inside => noBrace (inside.subset (List.mem_cons_of_mem _ List.mem_cons_self))⟩

/-- A character of a body that is no dollar sign is an ordinary one. -/
theorem IsPlain.ordinary {c : Char} {rest : List Char} (plain : IsPlain (c :: rest))
    (noDollar : c ≠ '$') : c ∉ ['\\', backtick, '$'] := by
  simp only [List.mem_cons, List.not_mem_nil, or_false, not_or]
  exact ⟨fun same => plain.noEscape (same ▸ List.mem_cons_self),
    fun same => plain.noBacktick (same ▸ List.mem_cons_self), noDollar⟩

/-- No brace is behind a dollar sign. -/
theorem IsPlain.noBrace {c : Char} {rest : List Char} (plain : IsPlain ('$' :: c :: rest)) :
    c ≠ openBrace := by
  rintro rfl
  exact plain.noInterpolation (List.prefix_append ['$', openBrace] rest).isInfix

variable {text : Array Char} {i stop next : Nat} {c : Char}

theorem interpolation_opens (reaches : interpolation.Reaches text i next) :
    text[i]? = some '$' ∧ text[i + 1]? = some openBrace := by
  obtain ⟨_, ⟨_, ⟨between, dollar, brace⟩, _⟩, _⟩ := reaches
  obtain ⟨stand, rfl⟩ := reaches_literal_iff.1 dollar
  exact ⟨stand.1, (reaches_char_iff.1 brace).2⟩

/-- An ordinary character is a part by itself. -/
theorem part_reaches_iff (present : text[i]? = some c) (plain : c ∉ ['\\', backtick, '$']) :
    templatePart.Reaches text i next ↔ next = i + 1 := by
  have isNot {d : Char} (member : d ∈ ['\\', backtick, '$']) : text[i]? ≠ some d := by
    intro isD
    exact plain (Option.some.inj (present.symm.trans isD) ▸ member)
  have alone : (noneOf ['\\', backtick, '$']).Reaches text i next ↔ _ := reaches_noneOf_iff present
  constructor
  · rintro (⟨_, escape, _⟩ | opens | single | ⟨_, dollar, _⟩)
    · exact absurd (reaches_char_iff.1 escape).2 (isNot (by decide))
    · exact absurd (interpolation_opens opens).1 (isNot (by decide))
    · exact (alone.1 single).1
    · exact absurd (reaches_char_iff.1 dollar).2 (isNot (by decide))
  · rintro rfl
    exact Or.inr (Or.inr (Or.inl (alone.2 ⟨rfl, plain⟩)))

/-- A dollar sign takes the character behind it along. -/
theorem dollarPart_reaches_iff (dollar : text[i]? = some '$') (present : text[i + 1]? = some c)
    (noBrace : c ≠ openBrace) : templatePart.Reaches text i next ↔ next = i + 2 := by
  have pair : (char '$' ++ noneOf [openBrace]).Reaches text i next ↔ next = i + 2 := by
    have behind : (noneOf [openBrace]).Reaches text (i + 1) next ↔ _ := reaches_noneOf_iff present
    constructor
    · rintro ⟨_, first, second⟩
      obtain ⟨rfl, _⟩ := reaches_char_iff.1 first
      exact (behind.1 second).1
    · rintro rfl
      exact ⟨i + 1, reaches_char_iff.2 ⟨rfl, dollar⟩,
        behind.2 ⟨rfl, fun isBrace => noBrace (List.mem_singleton.1 isBrace)⟩⟩
  rw [← pair]
  constructor
  · rintro (⟨_, escape, _⟩ | opens | single | both)
    · exact absurd (Option.some.inj (dollar.symm.trans (reaches_char_iff.1 escape).2)) (by decide)
    · exact absurd (Option.some.inj (present.symm.trans (interpolation_opens opens).2)) noBrace
    · exact absurd ((reaches_noneOf_iff dollar).1 single).2 (by decide)
    · exact both
  · exact fun both => Or.inr (Or.inr (Or.inr both))

/-- Where there is only one way to go on, all further places are reached by it. -/
theorem reflTransGen_iff_of_unique {R : Nat → Nat → Prop} {place : Nat}
    (unique : ∀ next, R i next ↔ next = place) (further : i ≠ stop) :
    Relation.ReflTransGen R i stop ↔ Relation.ReflTransGen R place stop := by
  constructor
  · intro leads
    obtain same | ⟨_, first, rest⟩ := leads.cases_head
    · exact absurd same further
    · exact (unique _).1 first ▸ rest
  · exact fun rest => .head ((unique place).2 rfl) rest

/-- Behind an ordinary character a body is read on from the next place. -/
theorem parts_ordinary_iff (present : text[i]? = some c) (plain : c ∉ ['\\', backtick, '$'])
    (further : i < stop) : Relation.ReflTransGen (templatePart.Reaches text) i stop ↔
      Relation.ReflTransGen (templatePart.Reaches text) (i + 1) stop :=
  reflTransGen_iff_of_unique (fun _ => part_reaches_iff present plain) (Nat.ne_of_lt further)

/-- Behind a dollar sign a body is read on from the place after the next. -/
theorem parts_dollar_iff (dollar : text[i]? = some '$') (present : text[i + 1]? = some c)
    (noBrace : c ≠ openBrace) (further : i < stop) :
    Relation.ReflTransGen (templatePart.Reaches text) i stop ↔
      Relation.ReflTransGen (templatePart.Reaches text) (i + 2) stop :=
  reflTransGen_iff_of_unique (fun _ => dollarPart_reaches_iff dollar present noBrace)
    (Nat.ne_of_lt further)

/-- **A body is read to its end** exactly if it ends with an even number of dollar signs. -/
theorem parts_iff {rest : List Char} (stand : StandAt text rest i) (ends : i + rest.length = stop)
    (closes : text[stop]? = some backtick) (plain : IsPlain rest) :
    Relation.ReflTransGen (templatePart.Reaches text) i stop ↔ Even (closingDollars rest) := by
  induction rest using List.twoStepInduction generalizing i with
  | nil =>
      obtain rfl : i = stop := ends
      exact iff_of_true .refl Even.zero
  | singleton c =>
      obtain ⟨present, _⟩ := stand
      obtain rfl : i + 1 = stop := ends
      rw [closingDollars_single]
      by_cases dollar : c = '$'
      · subst dollar
        rw [parts_dollar_iff present closes (by decide) (Nat.lt_succ_self i), if_pos rfl]
        refine iff_of_false (fun leads => ?_) Nat.not_even_one
        have low : i + 2 ≤ i + 1 := Reaches.le (p := star true templatePart) leads
        omega
      · rw [if_neg dollar, parts_ordinary_iff present (plain.ordinary dollar) (Nat.lt_succ_self i)]
        exact iff_of_true .refl Even.zero
  | cons_cons c d rest pairs single =>
      obtain ⟨present, behind, later⟩ := stand
      simp only [List.length_cons] at ends
      by_cases dollar : c = '$'
      · subst dollar
        rw [parts_dollar_iff present behind plain.noBrace (by omega), even_closingDollars_pair]
        exact pairs later (by omega) (plain.of_suffix (List.suffix_append ['$', d] rest))
      · rw [parts_ordinary_iff present (plain.ordinary dollar) (by omega),
          closingDollars_cons dollar]
        exact single d ⟨behind, later⟩ (by simp only [List.length_cons]; omega)
          (plain.of_suffix (List.suffix_cons c _))

/-! ## Template literals -/

/-- A text that consists of a template literal without an interpolation in it. -/
structure IsTemplate (text : Array Char) (body : List Char) : Prop
    extends IsQuoted text backtick body where
  plain : IsPlain body

/-- A template literal in writing. -/
theorem isTemplate_quoted {b : String} (plain : IsPlain b.toList) :
    IsTemplate (charactersOf ("`" ++ b ++ "`")) b.toList :=
  ⟨isQuoted (by decide) b, plain⟩

section Template

variable {body : List Char} {place other : Nat} (shape : IsTemplate text body)
include shape

/-- There are two backticks in the text. -/
theorem IsTemplate.place_of_backtick (present : text[place]? = some backtick) :
    place = 0 ∨ place = body.length + 1 := by
  have inside : place < text.size := (Array.getElem?_eq_some_iff.1 present).1
  have size := shape.size
  by_cases inBody : 0 < place ∧ place < body.length + 1
  · obtain ⟨c, member, here⟩ := shape.exists_mem inBody.1 inBody.2
    cases present.symm.trans here
    exact absurd member shape.plain.noBacktick
  · omega

/-- **A template literal is read as a whole**, if the body ends with an even number of dollar
signs, and otherwise not at all. -/
theorem IsTemplate.reaches_iff : template.Reaches text place other ↔
    place = 0 ∧ other = text.size ∧ Even (closingDollars body) := by
  have parts := parts_iff shape.stand (Nat.add_comm _ _) shape.closes shape.plain
  constructor
  · rintro ⟨last, ⟨start, first, rounds⟩, ends⟩
    obtain ⟨rfl, opens⟩ := reaches_char_iff.1 first
    obtain ⟨rfl, closes⟩ := reaches_char_iff.1 ends
    have low : place + 1 ≤ last := Reaches.le (p := star true templatePart) rounds
    obtain rfl | rfl := shape.place_of_backtick opens
    · obtain rfl | rfl := shape.place_of_backtick closes
      · omega
      · exact ⟨rfl, shape.size.symm, parts.1 rounds⟩
    · have := shape.place_of_backtick closes
      omega
  · rintro ⟨rfl, rfl, even⟩
    refine ⟨body.length + 1, ⟨1, reaches_char_iff.2 ⟨rfl, shape.opens⟩, parts.2 even⟩, ?_⟩
    exact reaches_char_iff.2 ⟨shape.size, shape.closes⟩

end Template

/-- The rule for template literals. -/
def templateRule : Rule := ⟨"template-string", template, true, none, some templateRules⟩

/-- The rules for comments, which come first, do not begin with a backtick, and no other rule
makes template literals. -/
theorem rules_are : ∃ before after, rules = before ++ templateRule :: after ∧
    (∀ rule ∈ before, rule.greedy = true ∧ rule.pattern.rejects backtick = true) ∧
      ∀ rule ∈ rules, rule.category = "template-string" →
        rule.greedy = true ∧ rule.pattern = template := by
  refine ⟨rules.take 2, rules.drop 3, rfl, ?_, ?_⟩
  · decide +kernel
  · decide +kernel

theorem hasToken_template : template.hasToken = false := rfl

/-- A text that is a template literal becomes its token. -/
theorem tokenize_of_even {b : String} (shape : IsTemplate (charactersOf ("`" ++ b ++ "`")) b.toList)
    (even : Even (closingDollars b.toList)) :
    ∃ children, grammar.tokenize ("`" ++ b ++ "`") = [.node "template-string" none children] ∧
      Token.textAll children = "`" ++ b ++ "`" := by
  obtain ⟨before, after, inOrder, earlier, _⟩ := rules_are
  have size := shape.size
  have found : templateRule.pattern.tokenAt (charactersOf ("`" ++ b ++ "`")) 0 =
      some ⟨0, (charactersOf ("`" ++ b ++ "`")).size⟩ := by
    refine tokenAt_of_unique hasToken_template (by omega) fun next => ?_
    exact shape.reaches_iff.trans ⟨fun ⟨_, ends, _⟩ => ends, fun ends => ⟨rfl, ends, even⟩⟩
  have whole := Grammar.tokenize_whole (g := grammar) inOrder (fun rule member =>
    ⟨(earlier rule member).1, tokenAt_eq_none fun _ =>
      not_reaches_of_rejects (earlier rule member).2 shape.opens⟩) rfl found
  have text := grammar.textAll_tokenize ("`" ++ b ++ "`")
  rw [whole, templateRule, Rule.token, Rule.tokenInside] at text ⊢
  exact ⟨_, rfl, by simpa only [Token.textAll, Token.text, String.append_empty] using text⟩

/-- In a text that is not closed as a template literal there is none. -/
theorem notTemplate_of_odd {b : String}
    (shape : IsTemplate (charactersOf ("`" ++ b ++ "`")) b.toList)
    (odd : ¬ Even (closingDollars b.toList)) {t : Token}
    (member : t ∈ grammar.tokenize ("`" ++ b ++ "`")) : t.category? ≠ some "template-string" := by
  obtain ⟨_, _, _, _, only⟩ := rules_are
  intro isTemplate
  obtain ⟨rule, among, category, span, finds, _⟩ :=
    Grammar.exists_rule_of_category member isTemplate
  obtain ⟨greedy, isPattern⟩ := only rule among category
  rw [Rule.Finds, if_pos greedy] at finds
  obtain ⟨place, isFound⟩ := finds
  rw [Rule.find, isPattern] at isFound
  obtain ⟨first, _, at', _⟩ := find_eq_some_iff.1 isFound
  exact odd (shape.reaches_iff.1 (reaches_of_tokenAt hasToken_template at').2).2.2

/-- **When a template literal is recognized.** A body without backslashes, backticks and
interpolations between two backticks becomes one token of a template literal over the whole text,
whatever signs of comments, quotes and line breaks are in it, unless it ends with an odd number of
dollar signs. Then there is no template literal among the tokens. -/
theorem tokenize_template (b : String) (plain : IsPlain b.toList) :
    (Even (closingDollars b.toList) →
        ∃ children, grammar.tokenize ("`" ++ b ++ "`") = [.node "template-string" none children] ∧
          Token.textAll children = "`" ++ b ++ "`") ∧
      (¬ Even (closingDollars b.toList) →
        ∀ t ∈ grammar.tokenize ("`" ++ b ++ "`"), t.category? ≠ some "template-string") := by
  have shape := isTemplate_quoted plain
  exact ⟨tokenize_of_even shape, fun odd _ => notTemplate_of_odd shape odd⟩

/-- Comments, quotes and a pair of dollar signs at the end. -/
theorem tokenize_template_comment :
    ∃ children, grammar.tokenize "`/* '$1'\n// $$`" = [.node "template-string" none children] ∧
      Token.textAll children = "`/* '$1'\n// $$`" := by
  have written : "`" ++ "/* '$1'\n// $$" ++ "`" = "`/* '$1'\n// $$`" := by decide
  have plain : IsPlain "/* '$1'\n// $$".toList :=
    isPlain_of_noBrace (by decide) (by decide) (by decide)
  have recognized := tokenize_template "/* '$1'\n// $$" plain
  rw [written] at recognized
  exact recognized.1 (by decide)

/-- **A dollar sign at the end costs the literal.** -/
theorem tokenize_dollar_at_end :
    IsPlain "$".toList ∧
      ¬ ∃ children, grammar.tokenize "`$`" = [.node "template-string" none children] := by
  have written : "`" ++ "$" ++ "`" = "`$`" := by decide
  have plain : IsPlain "$".toList := isPlain_of_noBrace (by decide) (by decide) (by decide)
  have odd : ¬ Even (closingDollars "$".toList) := by decide
  have notTemplate (t : Token) := notTemplate_of_odd (isTemplate_quoted plain) odd (t := t)
  rw [written] at notTemplate
  refine ⟨plain, fun ⟨children, isTemplate⟩ => ?_⟩
  rw [isTemplate] at notTemplate
  exact notTemplate _ List.mem_cons_self rfl

end JavaScript

end Language

end Highlight
