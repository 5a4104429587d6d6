import Highlight.Proofs.Grammar.FirstRule
import Highlight.Proofs.Language.TagShape

/-!
# The parts of a tag

A tag that has been found is cut into its name, the values of its attributes, the closing bracket,
and the names of its attributes. The rule for the name looks for the beginning of a text, and finds
none again behind the name (`Language.Markup.IsTag.carve_name`). Behind it the rules for values and
for the bracket find what the tag is made of there, which is proved along `Language.Markup.Rest`
(`Language.Markup.Rest.exists_bracketed`). What the last rule leaves between them is white space
(`Language.Markup.IsTag.exists_pieces`). So but for white space the whole inside of a tag has a
category (`Language.Markup.tag_parts`).
-/

namespace Highlight

set_option autoImplicit false

namespace Language

namespace Markup

open Pattern

variable {text : Array Char} {i stop : Nat} {c : Char}

/-! ## The rules -/

/-- The rule for the name of a tag, with the bracket that opens it. -/
def nameRule : Rule :=
  ⟨"tag", start ++ opening ++ many1 (solid ['>', '/']), false, none, some nameRules⟩

/-- The rule for values. -/
def valueRule : Rule := ⟨"attr-value", attrValue, false, none, some valueRules⟩

/-- The rule for the bracket that closes a tag. -/
def closingRule : Rule := ⟨"punctuation", closing, false, none, none⟩

/-- The rule for the names of attributes. -/
def attrNameRule : Rule := ⟨"attr-name", many1 (solid ['>', '/', '=']), false, none, none⟩

theorem tagRules_eq : tagRules = [nameRule, valueRule, closingRule, attrNameRule] := rfl

theorem valueRule_pattern : valueRule.pattern = attrValue := rfl

theorem closingRule_pattern : closingRule.pattern = closing := rfl

section Quiet

variable {begin : Nat} (low : begin ≤ i) (quiet : ∀ j, begin ≤ j → j < i → Quiet text j)
include low quiet

/-- Behind quiet characters the value is found that stands there. -/
theorem find_attrValue (found : attrValue.tokenAt text i = some ⟨i, stop⟩) :
    attrValue.find text begin = some ⟨i, stop⟩ := by
  rw [find_eq_some_iff]
  exact ⟨i, low, found, fun j after before => (quiet j after before).tokenAt_attrValue⟩

/-- Behind quiet characters the bracket is found that closes the tag. -/
theorem find_closing (closes : closing.Reaches text i text.size) :
    closing.find text begin = some ⟨i, text.size⟩ := by
  rw [find_eq_some_iff]
  refine ⟨i, low, ?_, fun j after before => (quiet j after before).tokenAt_closing⟩
  refine tokenAt_of_unique rfl ?_ fun next => closing_unique closes
  rcases closing_reaches_iff.1 closes with ⟨_, _, size⟩ | ⟨_, size⟩ <;> omega

/-- There is no value in a closing bracket. -/
theorem find_attrValue_eq_none (closes : closing.Reaches text i text.size) :
    attrValue.find text begin = none := by
  rw [find_eq_none_iff]
  intro j after
  rcases Nat.lt_or_ge j i with early | late
  · exact (quiet j after early).tokenAt_attrValue
  · apply tokenAt_attrValue_eq_none
    intro equals
    have within : j < text.size := (Array.getElem?_eq_some_iff.1 equals).1
    rcases closing_reaches_iff.1 closes with ⟨slash, bracket, size⟩ | ⟨bracket, size⟩
    · obtain rfl | rfl : j = i ∨ j = i + 1 := by omega
      · cases equals.symm.trans slash
      · cases equals.symm.trans bracket
    · obtain rfl : j = i := by omega
      cases equals.symm.trans bracket

end Quiet

/-- The pieces that the rules for values and for the closing bracket make of the rest of a text. -/
def bracketed (text : Array Char) (begin : Nat) : List Piece :=
  Piece.carve closing closingRule.token text
    (Piece.carve attrValue valueRule.token text (Piece.plainUnlessEmpty ⟨begin, text.size⟩))

/-- **The rest of a tag is cut into values and, at its end, the closing bracket**, and all that
stays plain is quiet. -/
theorem Rest.exists_bracketed (rest : Rest text i) {begin : Nat} (low : begin ≤ i)
    (quiet : ∀ j, begin ≤ j → j < i → Quiet text j) :
    ∃ front place, bracketed text begin = front ++
        [.token ⟨place, text.size⟩ (closingRule.token ((⟨place, text.size⟩ : Span).slice text))] ∧
      closing.Reaches text place text.size ∧ ∀ j, Piece.PlainAt front j → Quiet text j := by
  induction rest generalizing begin with
  | @bracket i closes =>
      refine ⟨Piece.plainUnlessEmpty ⟨begin, i⟩, i, ?_, closes, fun j isPlain => ?_⟩
      · rw [bracketed, Piece.carve_rest_of_find_none rfl (find_attrValue_eq_none low quiet closes),
          Piece.carve_rest_of_find rfl (find_closing low quiet closes),
          Piece.carve_plainUnlessEmpty, if_neg (Nat.lt_irrefl _)]
      · obtain ⟨after, before⟩ := Piece.plainAt_plainUnlessEmpty.1 isPlain
        exact quiet j after before
  | @character i here later ih =>
      refine ih (Nat.le_succ_of_le low) fun j after before => ?_
      rcases Nat.eq_or_lt_of_le (Nat.le_of_lt_succ before) with rfl | early
      · exact here
      · exact quiet j after early
  | @assigned i stop found later ih =>
      obtain ⟨front, place, isRest, closes, isQuiet⟩ :=
        ih (Nat.le_refl stop) fun j after before => absurd after (Nat.not_le.2 before)
      refine ⟨Piece.carve closing closingRule.token text (Piece.plainUnlessEmpty ⟨begin, i⟩) ++
        .token ⟨i, stop⟩ (valueRule.token ((⟨i, stop⟩ : Span).slice text)) :: front, place, ?_,
        closes, fun j isPlain => ?_⟩
      · rw [bracketed, Piece.carve_rest_of_find rfl (find_attrValue low quiet found),
          Piece.carve_append, Piece.carve_token_cons, List.append_assoc, List.cons_append, ← isRest,
          bracketed]
      · rcases Piece.plainAt_append.1 isPlain with before | behind
        · obtain ⟨after, before⟩ :=
            Piece.plainAt_plainUnlessEmpty.1 (Piece.plainAt_of_plainAt_carve rfl before)
          exact quiet j after before
        · exact isQuiet j (Piece.plainAt_token_cons.1 behind)

/-! ## The name -/

namespace IsTag

variable {opened named : Nat} (shape : IsTag text opened named)
include shape

/-- The name is matched up to where it has to end. -/
theorem tokenAt_name : nameRule.pattern.tokenAt text 0 = some ⟨0, named⟩ := by
  have first := shape.name opened (Nat.le_refl _) shape.proper
  have bracket := opening_reaches_iff.1 shape.opens
  have begins (next : Nat) :
      (start ++ opening ++ solid ['>', '/']).Reaches text 0 next ↔ next = opened + 1 := by
    constructor
    · rintro ⟨between, ⟨_, ⟨rfl, _⟩, opens⟩, rfl, stands⟩
      rcases bracket.2 with ⟨slash, rfl⟩ | rfl
      · rcases (opening_reaches_iff.1 opens).2 with ⟨_, rfl⟩ | rfl
        · rfl
        · exact absurd stands (not_solid_of_mem slash (by decide))
      · rcases (opening_reaches_iff.1 opens).2 with ⟨slash, _⟩ | rfl
        · exact absurd first (not_solid_of_mem slash (by decide))
        · rfl
    · rintro rfl
      exact ⟨opened, ⟨0, (reaches_start_iff (Nat.zero_le _)).2 ⟨rfl, rfl⟩, shape.opens⟩, rfl, first⟩
  have head : (advance text (start ++ opening ++ solid ['>', '/']) [⟨0, none⟩]).head? =
      some ⟨opened + 1, none⟩ := head?_advance_of_unique (a := ⟨0, none⟩) rfl begins
  have run := head?_advance_cat_run head shape.proper shape.inside
    (fun j after => shape.name j (Nat.le_of_succ_le after)) shape.border
  exact tokenAt_eq rfl run (Nat.zero_lt_of_lt shape.proper)

/-- **The name is cut off**, and what stands behind it stays. -/
theorem carve_name : Piece.carve nameRule.pattern nameRule.token text (Piece.start text) =
    .token ⟨0, named⟩ (nameRule.token ((⟨0, named⟩ : Span).slice text)) ::
      Piece.plainUnlessEmpty ⟨named, text.size⟩ := by
  have nothing : nameRule.pattern.find ((⟨named, text.size⟩ : Span).slice text) 0 = none := by
    rw [find_eq_none_iff]
    intro j _
    apply tokenAt_eq_none
    rintro next ⟨_, ⟨_, begins, opens⟩, _⟩
    obtain rfl := begins.1
    have bracket := (opening_reaches_iff.1 opens).1
    have within := (Array.getElem?_eq_some_iff.1 bracket).1
    obtain rfl := ((reaches_start_iff (Nat.le_of_lt within)).1 begins).2
    rw [Span.size_slice (Nat.le_refl _)] at within
    rw [Span.getElem?_slice (by omega), Nat.add_zero] at bracket
    exact shape.border ((CharSet.standsAt_iff bracket).2 (contains_solidSet.2 (by decide)))
  rw [Piece.carve_start_of_tokenAt shape.tokenAt_name, Piece.carve_of_find_none nothing]

end IsTag

/-- The rule for the bracket that opens a tag. -/
def openingRule : Rule := ⟨"punctuation", start ++ opening, false, none, none⟩

/-- The rule for the namespace in a name. -/
def namespaceRule : Rule :=
  ⟨"namespace", start ++ many1 (solid ['>', '/', ':']) ++ char ':', false, none, none⟩

theorem nameRules_eq : nameRules = [openingRule, namespaceRule] := rfl

/-- The bracket that opens a tag is written in one of two ways. -/
theorem text_of_opening {cs : List Char} (spelled : openingRule.pattern.Spells cs) :
    String.ofList cs = "<" ∨ String.ofList cs = "</" := by
  obtain ⟨_, _, rfl, rfl, _, _, rfl, bracket, slash | none⟩ := spelled
  · obtain rfl := spells_char_iff.1 bracket
    obtain rfl := spells_char_iff.1 slash
    exact Or.inr rfl
  · obtain rfl := spells_char_iff.1 bracket
    obtain rfl := none
    exact Or.inl rfl

/-- The bracket that closes a tag is written in one of two ways. -/
theorem text_of_closing {cs : List Char} (spelled : closing.Spells cs) :
    String.ofList cs = ">" ∨ String.ofList cs = "/>" := by
  obtain ⟨_, _, rfl, slash | none, bracket⟩ := spelled
  · obtain rfl := spells_char_iff.1 slash
    obtain rfl := spells_char_iff.1 bracket
    exact Or.inr rfl
  · obtain rfl := none
    obtain rfl := spells_char_iff.1 bracket
    exact Or.inl rfl

/-- **A name that begins with a bracket is cut into a token of the bracket and more.** -/
theorem exists_nameParts (bracket : text[0]? = some '<') :
    ∃ sign parts, (Rule.applyAll nameRules text (Piece.start text)).map (Piece.toToken text) =
        .leaf "punctuation" none sign :: parts ∧ (sign = "<" ∨ sign = "</") := by
  have begins : openingRule.pattern.Reaches text 0 1 :=
    ⟨0, (reaches_start_iff (Nat.zero_le _)).2 ⟨rfl, rfl⟩,
      opening_reaches_iff.2 ⟨bracket, Or.inr rfl⟩⟩
  have proper (next : Nat) (reaches : openingRule.pattern.Reaches text 0 next) : 0 < next := by
    obtain ⟨_, ⟨rfl, _⟩, opens⟩ := reaches
    rcases (opening_reaches_iff.1 opens).2 with ⟨_, rfl⟩ | rfl <;> omega
  obtain ⟨⟨low, stop⟩, found⟩ := Option.ne_none_iff_exists'.1 (tokenAt_ne_none rfl proper begins)
  obtain rfl : low = 0 := (reaches_of_tokenAt rfl found).1
  have sign := text_of_opening (spells_of_find rfl (find_of_tokenAt found))
  rw [nameRules_eq, Rule.applyAll_cons_alone rfl, Rule.applyAll_cons_alone rfl, Rule.applyAll,
    Piece.carve_start_of_tokenAt found, Piece.carve_token_cons, List.map_cons]
  exact ⟨_, _, rfl, sign⟩

/-! ## Tags -/

/-- Where names have been carved out of quiet text, white space stays plain. -/
theorem isWhiteSpace_of_plainAt {pieces : List Piece}
    (isPlain : Piece.PlainAt (Piece.carve attrNameRule.pattern attrNameRule.token text pieces) i)
    (quiet : Quiet text i) (present : text[i]? = some c) : isWhiteSpace c = true := by
  have notName : ¬ (solidSet ['>', '/', '=']).StandsAt text i :=
    Piece.not_standsAt_of_plainAt_carve isPlain
  rw [CharSet.standsAt_iff present, contains_solidSet] at notName
  refine Classical.not_not.1 fun other => notName ⟨?_, quiet.notMem present⟩
  exact Bool.eq_false_iff.2 other

/-- **The pieces of a tag**: the name, the closing bracket, and between them pieces of which the
plain ones are white space. -/
theorem IsTag.exists_pieces {opened named : Nat} (shape : IsTag text opened named) :
    ∃ middle place, Rule.applyAll tagRules text (Piece.start text) =
        .token ⟨0, named⟩ (nameRule.token ((⟨0, named⟩ : Span).slice text)) :: (middle ++
          [.token ⟨place, text.size⟩
            (closingRule.token ((⟨place, text.size⟩ : Span).slice text))]) ∧
      closing.Reaches text place text.size ∧
      ∀ i c, Piece.PlainAt middle i → text[i]? = some c → isWhiteSpace c = true := by
  obtain ⟨front, place, isRest, closes, quiet⟩ := shape.rest.exists_bracketed (Nat.le_refl named)
    fun j after before => absurd after (Nat.not_le.2 before)
  refine ⟨Piece.carve attrNameRule.pattern attrNameRule.token text front, place, ?_, closes, ?_⟩
  · rw [bracketed] at isRest
    rw [tagRules_eq, Rule.applyAll_cons_alone rfl, Rule.applyAll_cons_alone rfl,
      Rule.applyAll_cons_alone rfl, Rule.applyAll_cons_alone rfl, Rule.applyAll, shape.carve_name,
      Piece.carve_token_cons, Piece.carve_token_cons, Piece.carve_token_cons, valueRule_pattern,
      closingRule_pattern, isRest, Piece.carve_append, Piece.carve_token_cons]
    rfl
  · intro i c isPlain present
    exact isWhiteSpace_of_plainAt isPlain (quiet i (Piece.plainAt_of_plainAt_carve rfl isPlain))
      present

/-- The tokens in a tag: the first one is that of the name and begins with the bracket that opens
the tag, the last one is the bracket that closes it, and the literals are white space. -/
structure TagParts (children : List Token) : Prop where
  first : ∃ opened nameParts,
    children.head? = some (.node "tag" none (.leaf "punctuation" none opened :: nameParts)) ∧
      (opened = "<" ∨ opened = "</")
  last : ∃ closed, children.getLast? = some (.leaf "punctuation" none closed) ∧
    (closed = ">" ∨ closed = "/>")
  literals : ∀ s, .literal s ∈ children → ∀ c ∈ s.toList, isWhiteSpace c = true

/-- **A text that is a tag is cut into the tokens that are in a tag.** -/
theorem IsTag.tagParts {opened named : Nat} (shape : IsTag text opened named) :
    TagParts ((Rule.applyAll tagRules text (Piece.start text)).map (Piece.toToken text)) := by
  obtain ⟨middle, place, cut, closes, blank⟩ := shape.exists_pieces
  refine ⟨?_, ?_, fun s member c inText => ?_⟩
  · have bracket : ((⟨0, named⟩ : Span).slice text)[0]? = some '<' := by
      have := shape.proper
      rw [Span.getElem?_slice (by omega)]
      exact (opening_reaches_iff.1 shape.opens).1
    obtain ⟨sign, parts, isName, isSign⟩ := exists_nameParts bracket
    refine ⟨sign, parts, ?_, isSign⟩
    rw [cut, List.map_cons, List.head?_cons, Piece.toToken, nameRule, Rule.token, Rule.tokenInside,
      isName]
  · have found := find_closing (Nat.le_refl place)
      (fun j after before => absurd after (Nat.not_le.2 before)) closes
    refine ⟨_, ?_, text_of_closing (spells_of_find rfl found)⟩
    rw [cut, List.map_cons, List.map_append, ← List.cons_append, List.map_singleton,
      List.getLast?_concat, Piece.toToken, closingRule, Rule.token, Rule.tokenInside, stringOf]
  · obtain ⟨span, isPlain, rfl⟩ := Rule.exists_plain_of_literal member
    rw [Span.text, stringOf, String.toList_ofList] at inText
    obtain ⟨i, low, high, present⟩ := Span.mem_slice_iff.1 inText
    have plainAt : Piece.PlainAt (Rule.applyAll tagRules text (Piece.start text)) i :=
      ⟨span, isPlain, low, high⟩
    rw [cut, Piece.plainAt_token_cons, Piece.plainAt_append, Piece.plainAt_token_cons,
      or_iff_left Piece.not_plainAt_nil] at plainAt
    exact blank i c plainAt present

/-- The rule for tags. -/
def tagRule : Rule := ⟨"tag", tag, true, none, some tagRules⟩

/-- The rule for tags is the only one that makes them. -/
theorem only_tagRule :
    grammar.rules.filter (fun rule => rule.category = tagRule.category) = [tagRule] :=
  rfl

/-- **The inside of a tag is fully classified.** Its first token is that of the name, which begins
with the bracket that opens the tag, its last one is the bracket that closes it, and what has no
category is white space. -/
theorem tag_parts {source : String} {t : Token} (member : t ∈ grammar.tokenize source)
    (isTag : t.category? = some "tag") :
    ∃ children, t = .node "tag" none children ∧ TagParts children := by
  obtain ⟨span, finds, rfl⟩ := Grammar.exists_span_of_only only_tagRule member isTag
  have noToken : tag.hasToken = false := rfl
  have noAssertion : tag.hasAssertion = false := rfl
  have reaches := (finds.spells noToken).reaches_whole noAssertion
  obtain ⟨opened, named, shape⟩ := exists_isTag reaches
  rw [tagRule, Rule.token, Rule.tokenInside]
  exact ⟨_, rfl, shape.tagParts⟩

/-- A bracket in a quoted value, and a slash that belongs to the last value. -/
theorem tag_parts_values :
    ∃ t ∈ grammar.tokenize "<x:a b = '>=' c=d/>", t.category? = some "tag" ∧
      ∃ children, t = .node "tag" none children ∧ TagParts children := by
  have inOrder : grammar.rules = rules.take 4 ++ tagRule :: rules.drop 5 := rfl
  have earlier : ∀ rule ∈ rules.take 4, rule.greedy = true ∧
      rule.pattern.tokenAt (charactersOf "<x:a b = '>=' c=d/>") 0 = none := by decide +kernel
  have found : tagRule.pattern.tokenAt (charactersOf "<x:a b = '>=' c=d/>") 0 =
      some ⟨0, (charactersOf "<x:a b = '>=' c=d/>").size⟩ := by decide +kernel
  have whole := Grammar.tokenize_whole inOrder earlier rfl found
  have member : tagRule.token (charactersOf "<x:a b = '>=' c=d/>") ∈
      grammar.tokenize "<x:a b = '>=' c=d/>" := by
    rw [whole]
    exact List.mem_cons_self
  have isTag := tagRule.category?_token (charactersOf "<x:a b = '>=' c=d/>")
  exact ⟨_, member, isTag, tag_parts member isTag⟩

end Markup

end Language

end Highlight
