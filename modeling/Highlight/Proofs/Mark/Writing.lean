import Highlight.Document.Fragment

/-!
# What writing a mark changes

Writing a mark brings its span inside the text, which takes nothing from it that is in
the text and adds nothing (`Span.mem_clip_iff`), and goes through the stretch that it
covers (`get?_write`). So it changes no character and puts the mark on those in the span
that are in the text, and on no others (`marked_write`). Marks are never taken away, so a
text with marks written on it keeps its characters, and so do the characters of a fragment
(`text_characters`).
-/

namespace Highlight

set_option autoImplicit false

/-- Bringing a span inside a text changes nothing about the positions in the text. -/
theorem Span.mem_clip_iff (span : Span) {size position : Nat} (inside : position < size) :
    (span.clip size).start ≤ position ∧ position < (span.clip size).stop ↔
      span.start ≤ position ∧ position < span.stop := by
  simp only [Span.clip]
  omega

namespace MarkedText

/-- Whether a mark is on the character at a position. -/
def Marked (t : MarkedText) (position : Nat) (m : Mark) : Prop :=
  ∃ c, t.get? position = some c ∧ m ∈ c.marks

/-- What stands at a position of a list of which one stretch was changed. -/
theorem getElem?_mapped_stretch {α : Type} {l : List α} {start stop : Nat} (f : α → α)
    (first : start ≤ stop) (last : stop ≤ l.length) (position : Nat) :
    (l.take start ++ (l.extract start stop).map f ++ l.drop stop)[position]? =
      l[position]?.map fun c => if start ≤ position ∧ position < stop then f c else c := by
  have before : (l.take start).length = start :=
    (List.length_take).trans (Nat.min_eq_left (Nat.le_trans first last))
  have upTo : (l.take start ++ (l.extract start stop).map f).length = stop := by
    rw [List.length_append, before, List.length_map, List.extract, List.length_take,
      List.length_drop]
    omega
  rcases Nat.lt_or_ge position stop with low | behind
  · rw [List.getElem?_append_left (upTo.symm ▸ low)]
    rcases Nat.lt_or_ge position start with outside | inside
    · have uncovered : ¬ (start ≤ position ∧ position < stop) := by omega
      simp only [if_neg uncovered, Option.map_id']
      rw [List.getElem?_append_left (before.symm ▸ outside), List.getElem?_take_of_lt outside]
    · simp only [if_pos (And.intro inside low)]
      rw [List.getElem?_append_right (before.symm ▸ inside), before, List.getElem?_map,
        List.extract, List.getElem?_take_of_lt (Nat.sub_lt_sub_right inside low),
        List.getElem?_drop, Nat.add_sub_cancel' inside]
  · have uncovered : ¬ (start ≤ position ∧ position < stop) := by omega
    simp only [if_neg uncovered, Option.map_id']
    rw [List.getElem?_append_right (upTo.symm ▸ behind), upTo, List.getElem?_drop,
      Nat.add_sub_cancel' behind]

/-- **What writing does to the character at a position**, in the text or beyond it. -/
theorem get?_write (t : MarkedText) (span : Span) (mark : Mark) (position : Nat) :
    (t.write span mark).get? position = (t.get? position).map fun c =>
      if span.start ≤ position ∧ position < span.stop then c.add mark else c := by
  have written := getElem?_mapped_stretch (l := t.chars) (·.add mark)
    (Nat.min_le_right span.start _) (Nat.min_le_right span.stop t.chars.length) position
  refine Eq.trans written ?_
  cases at' : t.get? position with
  | none => exact congrArg (Option.map _) at'
  | some c =>
      have inside : position < t.length := (List.getElem?_eq_some_iff.1 at').1
      refine (congrArg (Option.map _) at').trans ?_
      simp only [Option.map_some, ← span.mem_clip_iff inside]
      rfl

/-- Writing a mark changes no character. -/
@[simp]
theorem text_write (t : MarkedText) (span : Span) (mark : Mark) :
    (t.write span mark).text = t.text := by
  refine congrArg String.ofList (List.ext_getElem? fun position => ?_)
  have written := t.get?_write span mark position
  simp only [get?] at written
  rw [List.getElem?_map, List.getElem?_map, written, Option.map_map]
  congr 1
  funext c
  simp only [Function.comp_apply]
  split <;> rfl

/-- **Writing a mark** puts it on the characters in the span and on no others. -/
theorem marked_write (t : MarkedText) (span : Span) (mark : Mark) (position : Nat) (m : Mark) :
    (t.write span mark).Marked position m ↔
      t.Marked position m ∨
        (position < t.length ∧ span.start ≤ position ∧ position < span.stop ∧ m = mark) := by
  simp only [Marked, get?_write]
  cases at' : t.get? position with
  | none =>
      have outside : ¬ position < t.length := fun inside =>
        Option.some_ne_none _ ((List.getElem?_eq_getElem inside).symm.trans at')
      simp [outside]
  | some c =>
      have inside : position < t.length := (List.getElem?_eq_some_iff.1 at').1
      by_cases covered : span.start ≤ position ∧ position < span.stop
      · simp [covered, inside, or_comm]
      · simp only [covered, if_false, Option.map_some, Option.some.injEq, exists_eq_left']
        simp only [← and_assoc (a := span.start ≤ position), covered, false_and, and_false,
          or_false]

theorem text_ofString (text : String) : (ofString text).text = text := by
  simp only [ofString, MarkedText.text, List.map_map]
  exact (congrArg String.ofList (List.map_id _)).trans String.ofList_toList

theorem length_text (t : MarkedText) : t.text.length = t.length := by
  rw [MarkedText.text, String.length_ofList, List.length_map]
  rfl

end MarkedText

namespace Fragment

/-- The characters of a fragment are those of its text. -/
theorem text_characters (f : Fragment) : f.characters.text = f.text := by
  have kept : ∀ (marks : List (Span × Mark)) (t : MarkedText),
      (marks.foldl (fun t m => t.write m.1 m.2) t).text = t.text := by
    intro marks
    induction marks with
    | nil => exact fun _ => rfl
    | cons m rest ih => exact fun t => (ih (t.write m.1 m.2)).trans (t.text_write m.1 m.2)
  exact (kept f.marks _).trans (MarkedText.text_ofString f.text)

theorem length_characters (f : Fragment) : f.characters.length = f.length := by
  rw [← MarkedText.length_text, text_characters]
  rfl

end Fragment

end Highlight
