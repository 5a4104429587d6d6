import Highlight.Proofs.Mark.Grouping
import Highlight.Render.Html

/-!
# Reading rendered HTML

HTML is read from left to right: what stands between `<` and the next `>` is a tag, and
all else is text (`Html.partsOf`). Deleting the tags leaves the text, in which references
are then decoded (`Html.deleteTags`, `Html.decode`).

Escaped text has none of the signs that delimit tags and attribute values
(`Html.Escaped.notMem_delimiters`), so that it is read as text wherever it stands, and
decoding gives back what was escaped (`Html.decode_escape_append`).

What is rendered from marked text is escaped text with spans around parts of it, one
behind the other and none in another (`Html.Flat`), and that is read as it was written
(`Html.Flat.partsOf_written`). So it says nothing but the text that was rendered,
whatever its characters and the class names are (`Renderer.html_keeps_text`).
-/

namespace Highlight

set_option autoImplicit false

namespace Html

/-! ## Escaped text -/

/-- The characters with a meaning in markup. -/
def signs : List Char := ['&', '<', '>', '"', '\'']

/-- Those among them that delimit tags and attribute values. -/
def delimiters : List Char := ['<', '>', '"']

/-- What stands for the characters with a meaning in markup. -/
def references : List (List Char) :=
  ["&amp;".toList, "&lt;".toList, "&gt;".toList, "&quot;".toList, "&#39;".toList]

/-- Text in which the characters with a meaning in markup occur in references only. -/
inductive Escaped : List Char → Prop where
  | nil : Escaped []
  | ordinary {c : Char} {rest : List Char} (notSign : c ∉ signs) (escaped : Escaped rest) :
      Escaped (c :: rest)
  | reference {name rest : List Char} (known : name ∈ references) (escaped : Escaped rest) :
      Escaped (name ++ rest)

/-- Text with its references read. -/
def decode : List Char → List Char
  | '&' :: 'a' :: 'm' :: 'p' :: ';' :: rest => '&' :: decode rest
  | '&' :: 'l' :: 't' :: ';' :: rest => '<' :: decode rest
  | '&' :: 'g' :: 't' :: ';' :: rest => '>' :: decode rest
  | '&' :: 'q' :: 'u' :: 'o' :: 't' :: ';' :: rest => '"' :: decode rest
  | '&' :: '#' :: '3' :: '9' :: ';' :: rest => '\'' :: decode rest
  | c :: rest => c :: decode rest
  | [] => []

/-- A character is escaped by a reference if it has a meaning, and else stands for
itself. -/
theorem escapeChar_cases (c : Char) :
    (c ∉ signs ∧ escapeChar c = [c]) ∨ (c ∈ signs ∧ escapeChar c ∈ references) := by
  by_cases sign : c ∈ signs
  · refine Or.inr ⟨sign, ?_⟩
    simp only [signs, List.mem_cons, List.not_mem_nil, or_false] at sign
    rcases sign with rfl | rfl | rfl | rfl | rfl <;> decide
  · refine Or.inl ⟨sign, ?_⟩
    simp only [signs, List.mem_cons, List.not_mem_nil, or_false, not_or] at sign
    simp only [escapeChar, sign, if_false]

theorem Escaped.append_escapeChar {rest : List Char} (escaped : Escaped rest) (c : Char) :
    Escaped (escapeChar c ++ rest) := by
  rcases escapeChar_cases c with ⟨notSign, same⟩ | ⟨_, known⟩
  · rw [same]
    exact .ordinary notSign escaped
  · exact .reference known escaped

theorem escaped_escape (text : List Char) : Escaped (text.flatMap escapeChar) := by
  induction text with
  | nil => exact .nil
  | cons c rest ih =>
      rw [List.flatMap_cons]
      exact ih.append_escapeChar c

/-- No delimiter is left in escaped text. -/
theorem Escaped.notMem_delimiters {written : List Char} (escaped : Escaped written) :
    ∀ c ∈ written, c ∉ delimiters := by
  induction escaped with
  | nil => exact fun c member => absurd member List.not_mem_nil
  | @ordinary c rest notSign _ ih =>
      intro d member
      rcases List.mem_cons.1 member with rfl | later
      · exact fun delimiter => notSign (List.mem_cons_of_mem _
          (List.mem_append_left _ delimiter : d ∈ delimiters ++ ['\'']))
      · exact ih d later
  | @reference name rest known _ ih =>
      have clean : ∀ name ∈ references, name.all fun c => c ∉ delimiters := by decide
      intro d member
      rcases List.mem_append.1 member with inName | later
      · exact of_decide_eq_true (List.all_eq_true.1 (clean name known) d inName)
      · exact ih d later

theorem decode_cons {c : Char} (notSign : c ∉ signs) (rest : List Char) :
    decode (c :: rest) = c :: decode rest := by
  have other : c ≠ '&' := fun same => notSign (same ▸ List.mem_cons_self)
  rw [decode] <;> exact fun _ same _ => other same

/-- An escaped character is decoded by itself, whatever follows. -/
theorem decode_escapeChar_append (c : Char) (rest : List Char) :
    decode (escapeChar c ++ rest) = c :: decode rest := by
  rcases escapeChar_cases c with ⟨notSign, same⟩ | ⟨sign, _⟩
  · rw [same]
    exact decode_cons notSign rest
  · simp only [signs, List.mem_cons, List.not_mem_nil, or_false] at sign
    rcases sign with rfl | rfl | rfl | rfl | rfl <;> rfl

/-- Decoding gives back what was escaped, whatever follows. -/
theorem decode_escape_append (text rest : List Char) :
    decode (text.flatMap escapeChar ++ rest) = text ++ decode rest := by
  induction text with
  | nil => rfl
  | cons c more ih =>
      rw [List.flatMap_cons, List.append_assoc, decode_escapeChar_append, ih, List.cons_append]

/-! ## Text and tags -/

/-- A character of the text, or a tag by what it has between its brackets. -/
inductive Part where
  | char (c : Char)
  | tag (inner : List Char)

/-- A part as it stands in HTML. -/
def Part.written : Part → List Char
  | char c => [c]
  | tag inner => '<' :: inner ++ ['>']

/-- Reads HTML, either in text or in a tag of which a beginning has been read. -/
def partsFrom : Option (List Char) → List Char → List Part
  | none, [] => []
  | none, c :: rest => if c = '<' then partsFrom (some []) rest else .char c :: partsFrom none rest
  | some inner, [] => [.tag inner]
  | some inner, c :: rest =>
      if c = '>' then .tag inner :: partsFrom none rest else partsFrom (some (inner ++ [c])) rest

/-- The text and the tags of some HTML, from left to right. -/
def partsOf (html : List Char) : List Part := partsFrom none html

/-- The text without the tags. -/
def deleteTags (parts : List Part) : List Char :=
  parts.filterMap fun part =>
    match part with
    | .char c => some c
    | .tag _ => none

/-- Characters other than the opening bracket are text. -/
theorem partsOf_append {text : List Char} (noTag : '<' ∉ text) (rest : List Char) :
    partsOf (text ++ rest) = text.map Part.char ++ partsOf rest := by
  induction text with
  | nil => rfl
  | cons c more ih =>
      have other : c ≠ '<' := fun same => noTag (same ▸ List.mem_cons_self)
      have later := ih fun member => noTag (List.mem_cons_of_mem _ member)
      rw [List.cons_append, partsOf, partsFrom, if_neg other, List.map_cons, List.cons_append]
      exact congrArg _ later

theorem partsFrom_some_append {inner : List Char} (noEnd : '>' ∉ inner)
    (read rest : List Char) :
    partsFrom (some read) (inner ++ '>' :: rest) = .tag (read ++ inner) :: partsOf rest := by
  induction inner generalizing read with
  | nil => rw [List.nil_append, partsFrom, if_pos rfl, List.append_nil, partsOf]
  | cons c more ih =>
      have other : c ≠ '>' := fun same => noEnd (same ▸ List.mem_cons_self)
      have later := ih (fun member => noEnd (List.mem_cons_of_mem _ member)) (read ++ [c])
      rw [List.cons_append, partsFrom, if_neg other, later, List.append_assoc]
      rfl

/-- From one bracket to the other there is a tag. -/
theorem partsOf_tag {inner : List Char} (noEnd : '>' ∉ inner) (rest : List Char) :
    partsOf ((Part.tag inner).written ++ rest) = .tag inner :: partsOf rest := by
  have read := partsFrom_some_append noEnd [] rest
  rw [List.nil_append] at read
  rw [Part.written, List.cons_append, List.cons_append, List.append_assoc, partsOf, partsFrom,
    if_pos rfl]
  exact read

theorem deleteTags_append (before after : List Part) :
    deleteTags (before ++ after) = deleteTags before ++ deleteTags after :=
  List.filterMap_append

theorem deleteTags_text (text : List Char) : deleteTags (text.map Part.char) = text := by
  rw [deleteTags, List.filterMap_map]
  exact List.filterMap_some

theorem written_text (text : List Char) : (text.map Part.char).flatMap Part.written = text := by
  rw [List.flatMap_map]
  exact List.flatMap_singleton' text

/-! ## Flat markup -/

/-- What stands before the class in a tag that begins a span. -/
def spanStart : List Char := "span class=\"".toList

/-- The inside of the tag that begins a span of a class, given in its escaped form. -/
def spanTag (className : List Char) : List Char := spanStart ++ className ++ ['"']

/-- The inside of the tag that ends a span. -/
def spanEnd : List Char := "/span".toList

/-- Escaped text, and spans with escaped text in them, of classes in their escaped form,
one behind the other. -/
inductive Flat : List Part → Prop where
  | nil : Flat []
  | text {written : List Char} {rest : List Part} (escaped : Escaped written)
      (flat : Flat rest) : Flat (written.map Part.char ++ rest)
  | span {className written : List Char} {rest : List Part} (escapedClass : Escaped className)
      (escaped : Escaped written) (flat : Flat rest) :
      Flat (.tag (spanTag className) :: written.map Part.char ++ .tag spanEnd :: rest)

/-- A part in which delimiters occur as those of a span's tags only. -/
def Part.Delimited : Part → Prop
  | char c => c ∉ delimiters
  | tag inner => inner = spanEnd ∨
      ∃ className, inner = spanTag className ∧ ∀ c ∈ className, c ∉ delimiters

theorem Escaped.delimited {written : List Char} (escaped : Escaped written) :
    ∀ part ∈ written.map Part.char, part.Delimited := by
  intro part member
  obtain ⟨c, present, rfl⟩ := List.mem_map.1 member
  exact escaped.notMem_delimiters c present

/-- In flat markup the delimiters belong to the tags of spans. -/
theorem Flat.delimited {parts : List Part} (flat : Flat parts) :
    ∀ part ∈ parts, part.Delimited := by
  induction flat with
  | nil => exact fun part member => absurd member List.not_mem_nil
  | text escaped _ ih =>
      intro part member
      rcases List.mem_append.1 member with here | later
      · exact escaped.delimited part here
      · exact ih part later
  | @span className written rest escapedClass escaped _ ih =>
      intro part member
      rcases List.mem_append.1 member with before | behind
      · rcases List.mem_cons.1 before with rfl | here
        · exact Or.inr ⟨className, rfl, escapedClass.notMem_delimiters⟩
        · exact escaped.delimited part here
      · rcases List.mem_cons.1 behind with rfl | later
        · exact Or.inl rfl
        · exact ih part later

/-- An attribute without delimiters in its value does not end a tag. -/
theorem notMem_attribute {start value : List Char} (plain : '>' ∉ start)
    (clean : ∀ c ∈ value, c ∉ delimiters) : '>' ∉ start ++ value ++ ['"'] := by
  intro member
  rcases List.mem_append.1 member with inner | quote
  · rcases List.mem_append.1 inner with inStart | inValue
    · exact plain inStart
    · exact clean _ inValue (by decide)
  · exact absurd quote (by decide)

/-- Flat markup is read as it was written. -/
theorem Flat.partsOf_written {parts : List Part} (flat : Flat parts) :
    partsOf (parts.flatMap Part.written) = parts := by
  induction flat with
  | nil => rfl
  | @text written rest escaped _ ih =>
      have noTag : '<' ∉ written := fun member => escaped.notMem_delimiters _ member (by decide)
      rw [List.flatMap_append, written_text, partsOf_append noTag, ih]
  | @span className written rest escapedClass escaped _ ih =>
      have noTag : '<' ∉ written := fun member => escaped.notMem_delimiters _ member (by decide)
      have noEnd : '>' ∉ spanTag className :=
        notMem_attribute (by decide) escapedClass.notMem_delimiters
      have closed : '>' ∉ spanEnd := by decide
      simp only [List.cons_append, List.flatMap_cons, List.flatMap_append, written_text]
      rw [partsOf_tag noEnd, partsOf_append noTag, partsOf_tag closed, ih]

/-! ## Escaped runs -/

theorem toList_escape (text : String) : (escape text).toList = text.toList.flatMap escapeChar := by
  rw [escape, String.toList_ofList]

theorem toList_openSpan (className : String) :
    (openSpan className).toList =
      (Part.tag (spanTag (className.toList.flatMap escapeChar))).written := by
  have beginning : "<span class=\"".toList = '<' :: spanStart := by decide
  have ending : "\">".toList = ['"', '>'] := by decide
  rw [openSpan, String.toList_append, String.toList_append, toList_escape, beginning, ending,
    Part.written, spanTag]
  simp only [List.append_assoc, List.cons_append, List.nil_append]

theorem toList_closeSpan : closeSpan.toList = (Part.tag spanEnd).written := by decide

end Html

namespace Renderer

open Html

/-- The parts of the HTML for a run. -/
def htmlParts (run : Run) : List Part :=
  let text := (run.characters.flatMap escapeChar).map Part.char
  match run.tokenMark? with
  | some mark =>
      .tag (spanTag (mark.className.toList.flatMap escapeChar)) :: text ++ [.tag spanEnd]
  | none => text

theorem flat_htmlParts (run : Run) {rest : List Part} (flat : Flat rest) :
    Flat (htmlParts run ++ rest) := by
  have escaped := escaped_escape run.characters
  simp only [htmlParts]
  cases run.tokenMark? with
  | none => exact .text escaped flat
  | some mark =>
      simp only [List.cons_append, List.append_assoc, List.nil_append]
      exact .span (escaped_escape mark.className.toList) escaped flat

theorem deleteTags_htmlParts (run : Run) :
    deleteTags (htmlParts run) = run.characters.flatMap escapeChar := by
  simp only [htmlParts]
  cases run.tokenMark? with
  | none => exact deleteTags_text _
  | some mark =>
      have text := deleteTags_text (run.characters.flatMap escapeChar)
      rw [deleteTags_append]
      simp only [deleteTags, List.filterMap_cons_none, List.filterMap_nil,
        List.append_nil] at text ⊢
      exact text

theorem written_htmlParts (run : Run) :
    (htmlParts run).flatMap Part.written = (Renderer.html.run run).toList := by
  simp only [Renderer.run, Renderer.html, htmlParts]
  cases run.tokenMark? with
  | none => simp only [toList_escape, run.toList_text, written_text]
  | some mark =>
      simp only [String.toList_append, toList_openSpan, toList_closeSpan, toList_escape,
        run.toList_text, List.cons_append, List.flatMap_cons, List.flatMap_append, written_text,
        List.flatMap_nil, List.append_nil, List.append_assoc]

theorem flat_html_runs (runs : List Run) : Flat (runs.flatMap htmlParts) := by
  induction runs with
  | nil => exact .nil
  | cons run rest ih =>
      rw [List.flatMap_cons]
      exact flat_htmlParts run ih

theorem written_html_runs (runs : List Run) :
    (runs.flatMap htmlParts).flatMap Part.written = (Renderer.html.runs runs).toList := by
  induction runs with
  | nil => rfl
  | cons run rest ih =>
      rw [List.flatMap_cons, List.flatMap_append, ih, written_htmlParts, Renderer.runs,
        String.toList_append]

/-- Without the tags there is the escaped text of the runs. -/
theorem deleteTags_html_runs (runs : List Run) :
    deleteTags (runs.flatMap htmlParts) = (runs.flatMap Run.characters).flatMap escapeChar := by
  induction runs with
  | nil => rfl
  | cons run rest ih =>
      rw [List.flatMap_cons, deleteTags_append, deleteTags_htmlParts, ih, List.flatMap_cons,
        List.flatMap_append]

theorem decode_html_runs (runs : List Run) :
    decode (deleteTags (runs.flatMap htmlParts)) = runs.flatMap Run.characters := by
  have decoded := decode_escape_append (runs.flatMap Run.characters) []
  rwa [List.append_nil, ← deleteTags_html_runs, decode, List.append_nil] at decoded

/-- **HTML says what was rendered.** Read from left to right, the HTML for a marked text
is escaped text with spans around parts of it, none in another. These parts are all
there is, and every delimiter among them is one of a span's tag. Deleting the tags and
decoding what is left gives the text. -/
theorem html_keeps_text (t : MarkedText) :
    let html := (Renderer.html.text t).toList
    Flat (partsOf html) ∧ (partsOf html).flatMap Part.written = html ∧
      (∀ part ∈ partsOf html, part.Delimited) ∧
      decode (deleteTags (partsOf html)) = t.text.toList := by
  intro html
  have written : (t.runs.flatMap htmlParts).flatMap Part.written = html := written_html_runs t.runs
  have flat := flat_html_runs t.runs
  have read : partsOf html = t.runs.flatMap htmlParts := by
    rw [← written, flat.partsOf_written]
  rw [read]
  refine ⟨flat, written, flat.delimited, ?_⟩
  rw [decode_html_runs]
  exact t.characters_runs

end Renderer

end Highlight
