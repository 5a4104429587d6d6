import Highlight.Proofs.Grammar.Isolation
import Highlight.Proofs.Language.TemplateLiteral

/-!
# The parts of a template literal

A template literal that has been found is cut into the backticks at its ends, the interpolations
between them, and the rest of the string. Each of these rules takes what the one before it has left
as texts of their own. So a backtick behind the one that opens the literal would be taken for one at
the beginning of a text. But no body of a literal begins with a backtick
(`Language.JavaScript.exists_isClosed`), and only those at the ends are found
(`Language.JavaScript.IsClosed.carve_backticks`). Between them the last rule leaves nothing plain,
and the whole inside of the literal has a category (`Language.JavaScript.template_parts`).
-/

namespace Highlight

set_option autoImplicit false

namespace Language

namespace JavaScript

open Pattern

/-! ## The rules -/

/-- A backtick at the beginning or at the end of a text. -/
def edgeBacktick : Pattern := choice [start ++ char backtick, char backtick ++ finish]

/-- The rule for the backticks. -/
def backtickRule : Rule := ⟨"template-punctuation", edgeBacktick, false, some "string", none⟩

/-- The rule for interpolations. -/
def interpolationRule : Rule :=
  ⟨"interpolation", interpolation, false, none, some interpolationRules⟩

/-- The rule for the rest of the string. -/
def restRule : Rule := ⟨"string", many1 any, false, none, none⟩

theorem templateRules_eq : templateRules = [backtickRule, interpolationRule, restRule] := rfl

/-- The token of a backtick. -/
def backtickToken : Token := .leaf "template-punctuation" (some "string") "`"

/-- A token between the backticks: a part of the string, or an interpolation, which ends at its
first closing brace. -/
def IsPart (t : Token) : Prop :=
  t.category? = some "string" ∨
    t.category? = some "interpolation" ∧
      ∃ inner, t.text.toList = '$' :: openBrace :: inner ++ [closeBrace] ∧ closeBrace ∉ inner

variable {text : Array Char} {i next last : Nat}

/-! ## Backticks -/

theorem edgeBacktick_reaches_iff :
    edgeBacktick.Reaches text i next ↔
      next = i + 1 ∧ text[i]? = some backtick ∧ (i = 0 ∨ i + 1 = text.size) := by
  have inside (present : text[i]? = some backtick) : i < text.size :=
    (Array.getElem?_eq_some_iff.1 present).1
  constructor
  · rintro (⟨between, begins, sign⟩ | ⟨between, sign, ends⟩)
    · obtain rfl : between = i := begins.1
      obtain ⟨rfl, present⟩ := reaches_char_iff.1 sign
      have first := (reaches_start_iff (Nat.le_of_lt (inside present))).1 begins
      exact ⟨rfl, present, Or.inl first.2⟩
    · obtain ⟨rfl, present⟩ := reaches_char_iff.1 sign
      obtain ⟨rfl, isLast⟩ := (reaches_finish_iff (inside present)).1 ends
      exact ⟨rfl, present, Or.inr isLast⟩
  · rintro ⟨rfl, present, rfl | isLast⟩
    · left
      exact ⟨0, (reaches_start_iff (Nat.zero_le _)).2 ⟨rfl, rfl⟩, reaches_char_iff.2 ⟨rfl, present⟩⟩
    · right
      exact ⟨i + 1, reaches_char_iff.2 ⟨rfl, present⟩,
        (reaches_finish_iff (inside present)).2 ⟨rfl, isLast⟩⟩

theorem tokenAt_edgeBacktick (present : text[i]? = some backtick)
    (edge : i = 0 ∨ i + 1 = text.size) : edgeBacktick.tokenAt text i = some ⟨i, i + 1⟩ := by
  apply tokenAt_of_unique rfl (Nat.lt_succ_self i)
  intro next
  rw [edgeBacktick_reaches_iff]
  exact and_iff_left ⟨present, edge⟩

theorem token_backtick (present : text[i]? = some backtick) :
    backtickRule.token ((⟨i, i + 1⟩ : Span).slice text) = backtickToken := by
  have inside : i < text.size := (Array.getElem?_eq_some_iff.1 present).1
  have stand : StandAt text [backtick] i := ⟨present, trivial⟩
  have slice := stand.toList_slice (Nat.le_of_lt inside)
  rw [backtickRule, Rule.token, Rule.tokenInside, stringOf]
  rw [List.length_singleton] at slice
  rw [slice]
  rfl

/-! ## The ends of a literal -/

/-- A text with a backtick at either end, and its second character is no backtick unless that is
the last one. -/
structure IsClosed (text : Array Char) (last : Nat) : Prop where
  size : text.size = last + 1
  proper : 0 < last
  opens : text[0]? = some backtick
  closes : text[last]? = some backtick
  body : text[1]? = some backtick → last = 1

/-- **A template literal is closed, and its body does not begin with a backtick**, as none of its
parts does. -/
theorem exists_isClosed (reaches : template.Reaches text 0 text.size) :
    ∃ last, IsClosed text last := by
  obtain ⟨last, ⟨first, opens, rounds⟩, closes⟩ := reaches
  obtain ⟨rfl, present⟩ := reaches_char_iff.1 opens
  obtain ⟨size, closes⟩ := reaches_char_iff.1 closes
  have low : 1 ≤ last := Reaches.le (p := star true templatePart) rounds
  refine ⟨last, size, low, present, closes, fun present => ?_⟩
  obtain isLast | ⟨second, part, _⟩ := rounds.cases_head
  · exact isLast.symm
  · have rejects : templatePart.rejects backtick = true := by decide
    exact absurd part (not_reaches_of_rejects rejects present)

namespace IsClosed

variable (shape : IsClosed text last)
include shape

/-- Behind the opening backtick the closing one is the next to be found. -/
theorem find_closing :
    edgeBacktick.find ((⟨1, text.size⟩ : Span).slice text) 0 = some ⟨last - 1, last⟩ := by
  have proper := shape.proper
  have size := shape.size
  have length : ((⟨1, text.size⟩ : Span).slice text).size = last := by
    rw [Span.size_slice (Nat.le_refl _), size, Nat.add_sub_cancel]
  have char (i : Nat) (inside : i < last) :
      ((⟨1, text.size⟩ : Span).slice text)[i]? = text[1 + i]? :=
    Span.getElem?_slice (by omega)
  have back : last - 1 + 1 = last := Nat.sub_add_cancel proper
  rw [find_eq_some_iff]
  refine ⟨last - 1, Nat.zero_le _, ?_, fun i _ early => tokenAt_eq_none fun next reaches => ?_⟩
  · have closes : ((⟨1, text.size⟩ : Span).slice text)[last - 1]? = some backtick := by
      rw [char _ (by omega), Nat.add_comm, back, shape.closes]
    have found := tokenAt_edgeBacktick closes (Or.inr (back.trans length.symm))
    rwa [back] at found
  · obtain ⟨_, present, rfl | isLast⟩ := edgeBacktick_reaches_iff.1 reaches
    · rw [char 0 proper] at present
      have := shape.body present
      omega
    · omega

/-- **The two backticks at the ends are cut off.** -/
theorem carve_backticks :
    Piece.carve edgeBacktick backtickRule.token text (Piece.start text) =
      .token ⟨0, 1⟩ backtickToken ::
        (Piece.plainUnlessEmpty ⟨1, last⟩ ++ [.token ⟨last, last + 1⟩ backtickToken]) := by
  have opening : edgeBacktick.tokenAt text 0 = some ⟨0, 1⟩ :=
    tokenAt_edgeBacktick shape.opens (Or.inl rfl)
  have starts : backtickRule.token ((⟨0, 1⟩ : Span).slice text) = backtickToken :=
    token_backtick shape.opens
  have back : 1 + (last - 1) = last := Nat.add_sub_cancel' shape.proper
  have nothing : Piece.carve edgeBacktick backtickRule.token text
      (Piece.plainUnlessEmpty ⟨last + 1, last + 1⟩) = [] := by
    rw [Piece.carve_plainUnlessEmpty, if_neg (Nat.lt_irrefl _)]
  rw [Piece.carve_start_of_tokenAt opening, starts, Piece.carve_of_find shape.find_closing]
  simp only [Span.shift, back, Nat.add_comm 1 last, shape.size, nothing]
  rw [token_backtick shape.closes]

end IsClosed

/-! ## Between the backticks -/

/-- An interpolation ends at its first closing brace. -/
theorem exists_inner_of_spells {cs : List Char} (spelled : interpolation.Spells cs) :
    ∃ inner, cs = '$' :: openBrace :: inner ++ [closeBrace] ∧ closeBrace ∉ inner := by
  obtain ⟨_, _, rfl, ⟨_, inner, rfl, ⟨_, _, rfl, dollar, brace⟩, body⟩, closes⟩ := spelled
  obtain rfl := spells_char_iff.1 dollar
  obtain rfl := spells_char_iff.1 brace
  obtain rfl := spells_char_iff.1 closes
  refine ⟨inner, rfl, fun member => ?_⟩
  have other := body closeBrace member
  rw [CharSet.contains_compl, CharSet.contains_ofList] at other
  exact absurd other (by decide)

theorem isPart_interpolation {span : Span} (finds : interpolationRule.Finds text span) :
    IsPart (interpolationRule.token (span.slice text)) := by
  have noToken : interpolationRule.pattern.hasToken = false := rfl
  refine Or.inr ⟨interpolationRule.category?_token _, ?_⟩
  rw [Rule.text_token, stringOf, String.toList_ofList]
  exact exists_inner_of_spells (finds.spells noToken)

/-- The pieces between the backticks when all rules have been applied. -/
def middle (text : Array Char) (last : Nat) : List Piece :=
  Piece.carve restRule.pattern restRule.token text
    (Piece.carve interpolation interpolationRule.token text (Piece.plainUnlessEmpty ⟨1, last⟩))

section Middle

variable (proper : 0 < last) (inside : last ≤ text.size)
include proper inside

theorem tiles_middle : Piece.Tiles (fun _ t => IsPart t) 1 (middle text last) last := by
  have whole : Piece.Tiles (fun _ t => IsPart t) 1 (Piece.plainUnlessEmpty ⟨1, last⟩) last :=
    Piece.tiles_plainUnlessEmpty proper
  refine (whole.carve ?_ inside).carve ?_ inside
  · intro region s within isFound
    exact isPart_interpolation (.of_find_slice rfl within isFound)
  · intro region s _ _
    exact Or.inl (restRule.category?_token _)

/-- **Nothing between the backticks stays plain.** -/
theorem isToken_of_mem_middle {piece : Piece} (member : piece ∈ middle text last) :
    piece.isToken = true := by
  cases piece with
  | token span t => rfl
  | plain span =>
      have bounds := (tiles_middle proper inside).bounds member
      simp only [Piece.span] at bounds
      have isPlain : Piece.PlainAt (middle text last) span.start :=
        ⟨span, member, Nat.le_refl _, bounds.2.1⟩
      have stands : CharSet.all.StandsAt text span.start := standsAt_all_iff.2 (by omega)
      exact absurd stands (Piece.not_standsAt_of_plainAt_carve isPlain)

theorem isPart_of_mem_middle {t : Token}
    (member : t ∈ (middle text last).map (Piece.toToken text)) : IsPart t := by
  obtain ⟨piece, isPiece, rfl⟩ := List.mem_map.1 member
  cases piece with
  | plain span => cases isToken_of_mem_middle proper inside isPiece
  | token span t => exact (tiles_middle proper inside).made_of_mem isPiece

end Middle

/-- The pieces of a template literal. -/
theorem IsClosed.applyAll_templateRules (shape : IsClosed text last) :
    Rule.applyAll templateRules text (Piece.start text) =
      .token ⟨0, 1⟩ backtickToken ::
        (middle text last ++ [.token ⟨last, last + 1⟩ backtickToken]) := by
  have cut := shape.carve_backticks
  rw [templateRules_eq, Rule.applyAll_cons_alone rfl, Rule.applyAll_cons_alone rfl,
    Rule.applyAll_cons_alone rfl, Rule.applyAll]
  have first : backtickRule.pattern = edgeBacktick := rfl
  rw [first, cut, Piece.carve_token_cons, Piece.carve_append, Piece.carve_token_cons,
    Piece.carve_token_cons, Piece.carve_append, Piece.carve_token_cons]
  rfl

/-! ## Template literals -/

/-- The rule for template literals is the only one that makes them. -/
theorem only_templateRule :
    grammar.rules.filter (fun rule => rule.category = templateRule.category) = [templateRule] :=
  rfl

/-- **The inside of a template literal is fully classified.** It begins and ends with a token of a
backtick, and these are two. Every token between them is a part of the string or an interpolation,
which begins with a dollar sign and a brace and ends at the first closing brace. So no token in
the literal is left without a category, and no other one is its punctuation. -/
theorem template_parts {source : String} {t : Token} (member : t ∈ grammar.tokenize source)
    (isTemplate : t.category? = some "template-string") :
    ∃ parts, t = .node "template-string" none (backtickToken :: parts ++ [backtickToken]) ∧
      ∀ part ∈ parts, IsPart part := by
  obtain ⟨span, finds, rfl⟩ := Grammar.exists_span_of_only only_templateRule member isTemplate
  have noAssertion : template.hasAssertion = false := rfl
  have reaches := (finds.spells hasToken_template).reaches_whole noAssertion
  obtain ⟨last, shape⟩ := exists_isClosed reaches
  have inside : last ≤ (span.slice (charactersOf source)).size := by
    rw [shape.size]
    exact Nat.le_succ last
  refine ⟨(middle (span.slice (charactersOf source)) last).map (Piece.toToken _), ?_,
    fun part => isPart_of_mem_middle shape.proper inside⟩
  rw [templateRule, Rule.token, Rule.tokenInside, shape.applyAll_templateRules, List.map_cons,
    List.map_append]
  rfl

/-- An interpolation with a backtick in it, behind a part of the string. -/
theorem template_parts_interpolation :
    ∃ t ∈ grammar.tokenize "`a$\x7b`\x7d`", t.category? = some "template-string" ∧
      ∃ parts, t = .node "template-string" none (backtickToken :: parts ++ [backtickToken]) ∧
        ∀ part ∈ parts, IsPart part := by
  obtain ⟨before, after, inOrder, earlier, _⟩ := rules_are
  have opens : (charactersOf "`a$\x7b`\x7d`")[0]? = some backtick := by decide
  have found : templateRule.pattern.tokenAt (charactersOf "`a$\x7b`\x7d`") 0 =
      some ⟨0, (charactersOf "`a$\x7b`\x7d`").size⟩ := by decide +kernel
  have whole := Grammar.tokenize_whole (g := grammar) inOrder (fun rule member =>
    ⟨(earlier rule member).1, tokenAt_eq_none fun _ =>
      not_reaches_of_rejects (earlier rule member).2 opens⟩) rfl found
  have member : templateRule.token (charactersOf "`a$\x7b`\x7d`") ∈
      grammar.tokenize "`a$\x7b`\x7d`" := by
    rw [whole]
    exact List.mem_cons_self
  have isTemplate := templateRule.category?_token (charactersOf "`a$\x7b`\x7d`")
  exact ⟨_, member, isTemplate, template_parts member isTemplate⟩

end JavaScript

end Language

end Highlight
