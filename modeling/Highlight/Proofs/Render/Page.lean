import Highlight.Proofs.Render.Html
import Highlight.Proofs.Text.JoinedLines

/-!
# Pages of HTML

A page is a row of lines in a `pre` and a `code` element. The first tag of the page has a
name in it, and the lines are escaped text with spans around parts of it, like all HTML
that is rendered from marked text.

In a page the text says what was shown and nothing else, and the delimiters are those of
the program's own tags (`Html.IsPage`). All of it but the first tag is always so
(`Html.isPage_body`). The whole of it is a page exactly if none of the signs of markup is
in the name, as the name is not escaped (`Html.isPage_heading_iff`).

The converse holds since an escaped name has no quote in it. Where the first tag ends is
therefore certain, and the name before that is as it was escaped
(`Html.eq_of_quoted_eq`); but escaping changes every name with a sign in it
(`Html.flatMap_escapeChar_eq_self_iff`).
-/

namespace Highlight

set_option autoImplicit false

namespace Html

/-! ## Escaping and length -/

theorem length_le_length_escapeChar (c : Char) : 1 ≤ (escapeChar c).length := by
  rcases escapeChar_cases c with ⟨_, same⟩ | ⟨_, known⟩
  · exact Nat.le_of_eq (congrArg List.length same).symm
  · have long : ∀ name ∈ references, 1 ≤ name.length := by decide
    exact long _ known

/-- Escaping makes no text shorter. -/
theorem length_le_length_escape (text : List Char) :
    text.length ≤ (text.flatMap escapeChar).length := by
  induction text with
  | nil => exact Nat.le_refl _
  | cons c rest ih =>
      have one := length_le_length_escapeChar c
      rw [List.flatMap_cons, List.length_append, List.length_cons]
      omega

/-- **Escaping leaves a text as it is** exactly if there is no sign in it. -/
theorem flatMap_escapeChar_eq_self_iff (text : List Char) :
    text.flatMap escapeChar = text ↔ ∀ c ∈ text, c ∉ signs := by
  induction text with
  | nil => exact ⟨fun _ c member => absurd member List.not_mem_nil, fun _ => rfl⟩
  | cons c rest ih =>
      rw [List.flatMap_cons, List.forall_mem_cons]
      rcases escapeChar_cases c with ⟨notSign, same⟩ | ⟨sign, known⟩
      · rw [same, List.singleton_append, List.cons_inj_right, ih]
        exact (and_iff_right notSign).symm
      · have long : ∀ name ∈ references, 2 ≤ name.length := by decide
        have reference := long _ known
        have others := length_le_length_escape rest
        refine ⟨fun same => ?_, fun clean => absurd sign clean.1⟩
        have lengths := congrArg List.length same
        rw [List.length_append, List.length_cons] at lengths
        omega

/-- A name and its escaped form that are followed by a quote in the same text are the
same. -/
theorem eq_of_quoted_eq {name rest rest' : List Char}
    (same : name ++ '"' :: rest = name.flatMap escapeChar ++ '"' :: rest') :
    name.flatMap escapeChar = name := by
  have noQuote : '"' ∉ name.flatMap escapeChar := fun member =>
    (escaped_escape name).notMem_delimiters _ member (by decide)
  rcases List.append_eq_append_iff.1 same with ⟨more, longer, behind⟩ | ⟨more, longer, _⟩
  · cases more with
    | nil => rw [longer, List.append_nil]
    | cons c more =>
        cases (List.cons.inj behind).1
        rw [longer] at noQuote
        exact absurd (List.mem_append_right _ List.mem_cons_self) noQuote
  · have lengths := congrArg List.length longer
    have atLeast := length_le_length_escape name
    rw [List.length_append] at lengths
    have none : more = [] := List.length_eq_zero_iff.1 (by omega)
    rw [none, List.append_nil] at longer
    exact longer.symm

/-! ## The parts of a page -/

/-- What stands before the name in the tag that begins a page. -/
def preStart : List Char := "pre class=\"language-".toList

/-- The inside of the tag that begins a page, with the name as it stands there. -/
def preTag (name : List Char) : List Char := preStart ++ name ++ ['"']

/-- The inside of the tag before the lines of a page. -/
def codeTag : List Char := "code".toList

/-- The inside of the tag behind the lines. -/
def codeEnd : List Char := "/code".toList

/-- The inside of the tag that ends a page. -/
def preEnd : List Char := "/pre".toList

/-- What stands behind the first tag of a page with some lines. -/
def bodyParts (lines : List (List Part)) : List Part :=
  .tag codeTag :: .char lineBreak :: lines.flatMap (· ++ [.char lineBreak]) ++
    [.tag codeEnd, .tag preEnd, .char lineBreak]

/-- A part in which delimiters occur as those of the tags of spans and pages only. -/
def Part.Proper : Part → Prop
  | char c => c ∉ delimiters
  | tag inner => inner ∈ [codeTag, codeEnd, preEnd] ∨
      (∃ name, inner = preTag name ∧ ∀ c ∈ name, c ∉ delimiters) ∨ (Part.tag inner).Delimited

/-- HTML that is some heading and the body of a page behind it, and that says a text: it
has no other parts, each delimiter belongs to a tag of a span or a page, and deleting the
tags and decoding what is left gives the text, with a line break before it and two
behind. -/
structure IsPage (heading : List Part) (html : List Char) (text : String) : Prop where
  parts : ∃ lines, (∀ line ∈ lines, Flat line) ∧ partsOf html = heading ++ bodyParts lines
  written : (partsOf html).flatMap Part.written = html
  proper : ∀ part ∈ partsOf html, part.Proper
  text : decode (deleteTags (partsOf html)) = lineBreak :: text.toList ++ [lineBreak, lineBreak]

theorem Part.Delimited.proper {part : Part} (delimited : part.Delimited) : part.Proper := by
  cases part with
  | char c => exact delimited
  | tag inner => exact Or.inr (Or.inr delimited)

theorem proper_lineBreak : (Part.char lineBreak).Proper :=
  show lineBreak ∉ delimiters by decide

theorem proper_preTag {name : List Char} (clean : ∀ c ∈ name, c ∉ delimiters) :
    (Part.tag (preTag name)).Proper :=
  Or.inr (Or.inl ⟨name, rfl, clean⟩)

/-- All parts of a body are proper. -/
theorem proper_bodyParts {lines : List (List Part)} (flat : ∀ line ∈ lines, Flat line) :
    ∀ part ∈ bodyParts lines, part.Proper := by
  intro part member
  rcases List.mem_append.1 member with before | behind
  · rcases List.mem_cons.1 before with rfl | before
    · exact Or.inl (by decide)
    · rcases List.mem_cons.1 before with rfl | within
      · exact proper_lineBreak
      · obtain ⟨line, among, inLine⟩ := List.mem_flatMap.1 within
        rcases List.mem_append.1 inLine with here | isBreak
        · exact ((flat line among).delimited part here).proper
        · cases List.mem_singleton.1 isBreak
          exact proper_lineBreak
  · simp only [List.mem_cons, List.not_mem_nil, or_false] at behind
    rcases behind with rfl | rfl | rfl
    · exact Or.inl (by decide)
    · exact Or.inl (by decide)
    · exact proper_lineBreak

/-! ## Reading a page -/

/-- The inside of a proper tag does not end the tag. -/
theorem Part.Proper.notMem {inner : List Char} (proper : (Part.tag inner).Proper) :
    '>' ∉ inner := by
  rcases proper with own | ⟨name, rfl, clean⟩ | rfl | ⟨className, rfl, clean⟩
  · have closed : ∀ tag ∈ [codeTag, codeEnd, preEnd], '>' ∉ tag := by decide
    exact closed inner own
  · exact notMem_attribute (by decide) clean
  · decide
  · exact notMem_attribute (by decide) clean

/-- A proper part is read as it was written, whatever follows. -/
theorem Part.Proper.partsOf_written_append {part : Part} (proper : part.Proper)
    (rest : List Char) : partsOf (part.written ++ rest) = part :: partsOf rest := by
  cases part with
  | char c =>
      have noTag : '<' ∉ [c] := fun member =>
        proper (List.mem_singleton.1 member ▸ (by decide : '<' ∈ delimiters))
      exact partsOf_append noTag rest
  | tag inner => exact partsOf_tag proper.notMem rest

/-- **Proper parts are read as they were written.** -/
theorem partsOf_flatMap_written {parts : List Part} (proper : ∀ part ∈ parts, part.Proper) :
    partsOf (parts.flatMap Part.written) = parts := by
  induction parts with
  | nil => rfl
  | cons part rest ih =>
      obtain ⟨first, others⟩ := List.forall_mem_cons.1 proper
      rw [List.flatMap_cons, first.partsOf_written_append, ih others]

/-! ## Lines of marked text -/

/-- The parts of the HTML for some lines of marked text. -/
def linesParts (texts : List MarkedText) : List (List Part) :=
  texts.map fun t => t.runs.flatMap Renderer.htmlParts

theorem linesParts_cons (t : MarkedText) (rest : List MarkedText) :
    linesParts (t :: rest) = t.runs.flatMap Renderer.htmlParts :: linesParts rest := rfl

theorem flat_linesParts {texts : List MarkedText} : ∀ line ∈ linesParts texts, Flat line := by
  intro line member
  obtain ⟨t, _, rfl⟩ := List.mem_map.1 member
  exact Renderer.flat_html_runs t.runs

/-- Without the tags there are the escaped lines. -/
theorem deleteTags_linesParts (texts : List MarkedText) :
    deleteTags ((linesParts texts).flatMap (· ++ [.char lineBreak])) =
      (closedLines (texts.map MarkedText.text)).flatMap escapeChar := by
  induction texts with
  | nil => rfl
  | cons t rest ih =>
      have line : deleteTags (t.runs.flatMap Renderer.htmlParts) =
          t.text.toList.flatMap escapeChar := by
        rw [Renderer.deleteTags_html_runs, t.characters_runs]
      have closed : deleteTags [.char lineBreak] = escapeChar lineBreak := rfl
      rw [linesParts_cons, List.flatMap_cons, deleteTags_append, deleteTags_append, ih, line,
        closed, List.map_cons, closedLines_cons, List.flatMap_append, List.flatMap_cons,
        List.append_assoc]

theorem written_linesParts (texts : List MarkedText) :
    ((linesParts texts).flatMap (· ++ [.char lineBreak])).flatMap Part.written =
      closedLines (texts.map Renderer.html.text) := by
  induction texts with
  | nil => rfl
  | cons t rest ih =>
      have closed : [Part.char lineBreak].flatMap Part.written = [lineBreak] := rfl
      rw [linesParts_cons, List.flatMap_cons, List.flatMap_append, List.flatMap_append, ih, closed,
        Renderer.written_html_runs, List.map_cons, closedLines_cons, List.append_assoc]
      rfl

/-- The lines stand in a body between a line break and the ending tags. -/
theorem written_bodyParts (texts : List MarkedText) :
    (bodyParts (linesParts texts)).flatMap Part.written =
      (Part.tag codeTag).written ++ lineBreak :: closedLines (texts.map Renderer.html.text) ++
        ((Part.tag codeEnd).written ++ (Part.tag preEnd).written ++ [lineBreak]) := by
  rw [bodyParts, List.flatMap_append, List.flatMap_cons, List.flatMap_cons, written_linesParts]
  rfl

theorem deleteTags_bodyParts (texts : List MarkedText) :
    deleteTags (bodyParts (linesParts texts)) =
      (lineBreak :: closedLines (texts.map MarkedText.text) ++ [lineBreak]).flatMap
        escapeChar := by
  rw [bodyParts, deleteTags_append, List.flatMap_append, List.flatMap_cons,
    ← deleteTags_linesParts]
  rfl

/-- **The body of a page says the lines**, if they are those of the text. -/
theorem isPage_body {texts : List MarkedText} {text : String}
    (lines : closedLines (texts.map MarkedText.text) = text.toList ++ [lineBreak]) :
    IsPage [] ((bodyParts (linesParts texts)).flatMap Part.written) text := by
  have proper := proper_bodyParts (@flat_linesParts texts)
  have read := partsOf_flatMap_written proper
  have decoded := decode_escape_append
    (lineBreak :: closedLines (texts.map MarkedText.text) ++ [lineBreak]) []
  rw [List.append_nil, ← deleteTags_bodyParts, lines] at decoded
  refine ⟨⟨_, flat_linesParts, read⟩, congrArg _ read, read.symm ▸ proper, ?_⟩
  rw [read, decoded, decode, List.append_nil, List.cons_append, List.append_assoc]
  rfl

/-- **A body under a first tag is a page** exactly if the name in the tag has no sign in
it. -/
theorem isPage_heading_iff (name : List Char) {body : List Char} {text : String}
    (isBody : IsPage [] body text) :
    IsPage [.tag (preTag (name.flatMap escapeChar))] ((Part.tag (preTag name)).written ++ body)
        text ↔ ∀ c ∈ name, c ∉ signs := by
  rw [← flatMap_escapeChar_eq_self_iff]
  constructor
  · intro isPage
    obtain ⟨lines, _, read⟩ := isPage.parts
    have written := isPage.written
    rw [read, List.singleton_append, List.flatMap_cons] at written
    simp only [Part.written, preTag, List.cons_append, List.append_assoc, List.nil_append,
      List.cons_inj_right, List.append_cancel_left_eq] at written
    exact eq_of_quoted_eq written.symm
  · intro same
    have clean : ∀ c ∈ name, c ∉ delimiters := by
      rw [← same]
      exact (escaped_escape name).notMem_delimiters
    have first := proper_preTag clean
    have read := first.partsOf_written_append body
    rw [same]
    obtain ⟨lines, flat, readBody⟩ := isBody.parts
    refine ⟨⟨lines, flat, ?_⟩, ?_, ?_, ?_⟩
    · rw [read, readBody]
      rfl
    · rw [read, List.flatMap_cons, isBody.written]
    · rw [read]
      exact List.forall_mem_cons.2 ⟨first, isBody.proper⟩
    · rw [read]
      exact isBody.text

end Html

end Highlight
