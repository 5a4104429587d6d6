import Highlight.Document.Block
import Highlight.Proofs.Text.JoinedLines

/-!
# The line endings of a source text

A block made of a source text has a line for each line break and one more. Joining the
lines again leaves the source as it was, but for carriage returns: of those before a line
break one is dropped, which makes one kind of break of the two (`plainBreaks`).

A carriage return at the very end of the source is dropped as well, though no line break
follows it, since the last line is treated like all others (`Block.text_ofSource`). The
block's text is therefore the source with plain breaks exactly if the source does not end
with a carriage return.
-/

namespace Highlight

set_option autoImplicit false

/-- Some characters with each pair of a carriage return and a line break made a line break
alone. -/
def plainBreaks : List Char → List Char
  | '\r' :: '\n' :: rest => '\n' :: plainBreaks rest
  | c :: rest => c :: plainBreaks rest
  | [] => []

/-! ## One character more -/

/-- What becomes of a character depends on the next one only. -/
theorem plainBreaks_cons (c : Char) (rest : List Char) :
    plainBreaks (c :: rest) =
      if c = '\r' ∧ rest.head? = some lineBreak then plainBreaks rest
      else c :: plainBreaks rest := by
  by_cases pair : c = '\r' ∧ rest.head? = some lineBreak
  · obtain ⟨rfl, first⟩ := pair
    cases rest with
    | nil => cases first
    | cons d more =>
        cases first
        have single : plainBreaks (lineBreak :: more) = lineBreak :: plainBreaks more := by
          rw [plainBreaks]
          exact fun _ same => absurd same (by decide)
        rw [if_pos ⟨rfl, rfl⟩, single, lineBreak, plainBreaks]
  · rw [if_neg pair, plainBreaks]
    rintro more rfl rfl
    exact pair ⟨rfl, rfl⟩

/-- No character is new. -/
theorem mem_of_mem_plainBreaks {c : Char} {text : List Char} (member : c ∈ plainBreaks text) :
    c ∈ text := by
  induction text with
  | nil => exact member
  | cons d rest ih =>
      rw [plainBreaks_cons] at member
      split at member
      · exact List.mem_cons_of_mem _ (ih member)
      · rcases List.mem_cons.1 member with rfl | member
        · exact List.mem_cons_self
        · exact List.mem_cons_of_mem _ (ih member)

/-- A last carriage return is behind all pairs. -/
theorem plainBreaks_concat_return (text : List Char) :
    plainBreaks (text ++ ['\r']) = plainBreaks text ++ ['\r'] := by
  induction text with
  | nil => rfl
  | cons c rest ih =>
      have next : (rest ++ ['\r']).head? = some lineBreak ↔ rest.head? = some lineBreak := by
        cases rest with
        | nil => decide
        | cons d more => rfl
      simp only [List.cons_append, plainBreaks_cons, next, ih]
      split <;> rfl

/-- Only a carriage return that nothing follows is dropped. -/
theorem dropReturn_cons (c : Char) (rest : List Char) :
    dropReturn (c :: rest) = if c = '\r' ∧ rest = [] then [] else c :: dropReturn rest := by
  cases rest with
  | nil =>
      by_cases isReturn : c = '\r' <;> simp [dropReturn, isReturn]
  | cons d more =>
      simp only [dropReturn, List.getLast?_cons_cons, List.dropLast_cons_cons,
        reduceCtorEq, and_false, if_false]
      split <;> rfl

theorem mem_of_mem_dropReturn {c : Char} {line : List Char} (member : c ∈ dropReturn line) :
    c ∈ line := by
  rw [dropReturn] at member
  split at member
  · exact (List.dropLast_sublist line).mem member
  · exact member

theorem head?_dropReturn (text : List Char) :
    (dropReturn text).head? = some lineBreak ↔ text.head? = some lineBreak := by
  cases text with
  | nil => rfl
  | cons c rest =>
      rw [dropReturn_cons]
      split
      · next lone => simp [lone.1, lineBreak]
      · rfl

/-- A break is no return. -/
theorem dropReturn_lineBreak_cons (rest : List Char) :
    dropReturn (lineBreak :: rest) = lineBreak :: dropReturn rest := by
  rw [dropReturn_cons, if_neg fun both => absurd both.1 (by decide)]

/-! ## Cutting and joining -/

/-- The first part of a text, and what stands behind it. -/
theorem exists_parts_eq (text : List Char) :
    ∃ first others, parts lineBreak text = first :: others :=
  List.exists_cons_of_ne_nil (parts_ne_nil lineBreak text)

/-- The first part is empty where the text is, and where a break comes first. -/
theorem eq_nil_iff_of_parts {text first : List Char} {others : List (List Char)}
    (cut : parts lineBreak text = first :: others) :
    first = [] ↔ text = [] ∨ text.head? = some lineBreak := by
  cases text with
  | nil =>
      simp only [parts, List.cons.injEq] at cut
      simp only [← cut.1, true_or]
  | cons c rest =>
      obtain ⟨next, more, later⟩ := exists_parts_eq rest
      simp only [parts, later] at cut
      split at cut
      · next isBreak =>
        cases cut
        simp only [isBreak, List.head?_cons, or_true]
      · next other =>
        cases cut
        simp only [reduceCtorEq, List.head?_cons, Option.some.injEq, other, or_self]

/-- Joining the parts of a text, each without its carriage return, gives the text with
plain breaks, without the carriage return at its end. -/
theorem joined_parts (text first : List Char) (others : List (List Char))
    (cut : parts lineBreak text = first :: others) :
    dropReturn first ++ others.flatMap (fun part => lineBreak :: dropReturn part) =
      plainBreaks (dropReturn text) := by
  induction text generalizing first others with
  | nil =>
      simp only [parts, List.cons.injEq] at cut
      obtain ⟨rfl, rfl⟩ := cut
      rfl
  | cons c rest ih =>
      obtain ⟨next, more, later⟩ := exists_parts_eq rest
      have joined := ih next more later
      have empty := eq_nil_iff_of_parts later
      simp only [parts, later] at cut
      split at cut
      · next isBreak =>
        cases cut
        subst isBreak
        rw [dropReturn_lineBreak_cons, plainBreaks_cons,
          if_neg fun both => absurd both.1 (by decide), ← joined]
        rfl
      · next other =>
        cases cut
        by_cases noRest : rest = []
        · subst noRest
          cases later
          rw [List.flatMap_nil, List.append_nil, dropReturn_cons]
          split
          · rfl
          · next kept => rw [dropReturn, if_neg (by simp), plainBreaks_cons, if_neg (by simp)]; rfl
        · rw [dropReturn_cons c rest, if_neg fun both => noRest both.2, plainBreaks_cons, ← joined,
            dropReturn_cons]
          simp only [head?_dropReturn]
          by_cases pair : c = '\r' ∧ rest.head? = some lineBreak
          · have noFirst : next = [] := empty.2 (Or.inr pair.2)
            rw [if_pos pair, if_pos ⟨pair.1, noFirst⟩, noFirst]
            rfl
          · have kept : ¬ (c = '\r' ∧ next = []) := fun both =>
              pair ⟨both.1, (empty.1 both.2).resolve_left noRest⟩
            rw [if_neg pair, if_neg kept, List.cons_append]

/-- The lines of a source text, joined again. -/
theorem toList_joinLines_linesOf (source : String) :
    (joinLines ((linesOf source).map Line.text)).toList =
      plainBreaks (dropReturn source.toList) := by
  obtain ⟨first, others, cut⟩ := exists_parts_eq source.toList
  have texts : (linesOf source).map Line.text =
      (parts lineBreak source.toList).map fun line => String.ofList (dropReturn line) := by
    rw [linesOf, List.map_pmap]
    exact List.pmap_eq_map _
  rw [texts, cut, List.map_cons, toList_joinLines_cons, String.toList_ofList, openedLines,
    List.flatMap_map, ← joined_parts source.toList first others cut]
  simp only [String.toList_ofList]

/-- A source text has one line more than line breaks. -/
theorem length_parts (text : List Char) :
    (parts lineBreak text).length = text.count lineBreak + 1 := by
  induction text with
  | nil => rfl
  | cons c rest ih =>
      obtain ⟨next, more, later⟩ := exists_parts_eq rest
      rw [later, List.length_cons] at ih
      simp only [parts, later, List.count_cons]
      split
      · next isBreak => simp [isBreak, ih]
      · next other => simp [other, ih]

namespace Block

/-- The lines of a block made of a source text are those of the text. -/
theorem texts_ofLines (lines : List Line) (supply : Supply) :
    (Fragment.ofLines lines supply).1.map Fragment.text = lines.map Line.text := by
  induction lines generalizing supply with
  | nil => rfl
  | cons line rest ih =>
      simp only [Fragment.ofLines, List.map_cons, ih]
      rfl

theorem texts_ofSource (kind source : String) (supply : Supply) :
    (ofSource kind source supply).1.fragments.map Fragment.text =
      (linesOf source).map Line.text :=
  texts_ofLines _ _

/-- The text of a block made of a source text. -/
theorem toList_text_ofSource (kind source : String) (supply : Supply) :
    (ofSource kind source supply).1.text.toList = plainBreaks (dropReturn source.toList) := by
  rw [Block.text, texts_ofSource, toList_joinLines_linesOf]

/-- Every character of the text is one of the source. -/
theorem mem_of_mem_text_ofSource (kind : String) {source : String} (supply : Supply) {c : Char}
    (member : c ∈ (ofSource kind source supply).1.text.toList) : c ∈ source.toList := by
  rw [toList_text_ofSource] at member
  exact mem_of_mem_dropReturn (mem_of_mem_plainBreaks member)

/-- **The text of a block is its source with plain breaks**, except that a carriage return
at the end of the source is missing. There is a fragment for each line break of the source
and one more. -/
theorem text_ofSource (kind source : String) (supply : Supply) :
    let block := (ofSource kind source supply).1
    block.fragments.length = source.toList.count lineBreak + 1 ∧
      block.text.toList = plainBreaks (dropReturn source.toList) ∧
      (block.text.toList = plainBreaks source.toList ↔ source.toList.getLast? ≠ some '\r') := by
  intro block
  have texts : block.fragments.map Fragment.text = (linesOf source).map Line.text :=
    texts_ofSource kind source supply
  have text : block.text.toList = plainBreaks (dropReturn source.toList) :=
    toList_text_ofSource kind source supply
  refine ⟨?_, text, ?_⟩
  · have lengths := congrArg List.length texts
    rw [List.length_map, List.length_map, linesOf, List.length_pmap, length_parts] at lengths
    exact lengths
  · rw [text, dropReturn]
    split
    · next last =>
      obtain ⟨before, whole⟩ := List.getLast?_eq_some_iff.1 last
      refine ⟨fun same => ?_, fun other => absurd last other⟩
      rw [whole, List.dropLast_concat, plainBreaks_concat_return] at same
      have lengths := congrArg List.length same
      rw [List.length_append, List.length_singleton] at lengths
      omega
    · next other => exact ⟨fun _ => other, fun _ => rfl⟩

/-- A carriage return that no line break follows is missing from the text if it is the last
character of the source. -/
theorem text_ofSource_last_return :
    let block := (ofSource "code_block" "a\r" .full).1
    block.text = "a" ∧ plainBreaks "a\r".toList = "a\r".toList ∧
      block.text.toList ≠ plainBreaks "a\r".toList := by
  decide

end Block

end Highlight
