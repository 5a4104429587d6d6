import Highlight.Proofs.Mark.Sameness

/-!
# Marks written one after the other

However many marks are written on a text, and over whatever spans, the characters stay, and each of
them ends up with the marks that were there and those written over a span with it inside
(`MarkedText.marked_writeAll`). So neither the order nor the repetition of writing counts
(`MarkedText.writeAll_eq_of_mem_iff`).

A fragment keeps a list of marks on the parts of their spans inside its text, and these are written
when its characters are asked for. The parts outside have no effect (`MarkedText.write_clip`), so
the characters are those with the marks written over the spans as they were given
(`Fragment.characters_addMarks`).
-/

namespace Highlight

set_option autoImplicit false

namespace MarkedText

/-- The text with several marks written on it, one after the other. -/
def writeAll (t : MarkedText) (writes : List (Span × Mark)) : MarkedText :=
  writes.foldl (fun t w => t.write w.1 w.2) t

theorem writeAll_cons (t : MarkedText) (w : Span × Mark) (writes : List (Span × Mark)) :
    t.writeAll (w :: writes) = (t.write w.1 w.2).writeAll writes := rfl

variable {t : MarkedText} {position : Nat} {m : Mark}

@[simp]
theorem length_write (t : MarkedText) (span : Span) (mark : Mark) :
    (t.write span mark).length = t.length := by
  rw [← length_text, text_write, length_text]

/-- Writing marks changes no character. -/
theorem text_writeAll (t : MarkedText) (writes : List (Span × Mark)) :
    (t.writeAll writes).text = t.text := by
  induction writes generalizing t with
  | nil => rfl
  | cons w rest ih => rw [writeAll_cons, ih, text_write]

/-- **What writing several marks comes to**: a character has the marks that it had and those
written over it. -/
theorem marked_writeAll (t : MarkedText) (writes : List (Span × Mark)) (position : Nat) (m : Mark) :
    (t.writeAll writes).Marked position m ↔
      t.Marked position m ∨
        (position < t.length ∧
          ∃ w ∈ writes, w.1.start ≤ position ∧ position < w.1.stop ∧ w.2 = m) := by
  induction writes generalizing t with
  | nil =>
      simp only [writeAll, List.foldl_nil, List.not_mem_nil, false_and, exists_false, and_false,
        or_false]
  | cons w rest ih =>
      rw [writeAll_cons, ih, marked_write, length_write, or_assoc]
      apply or_congr_right
      rw [← and_or_left]
      apply and_congr_right
      intro _
      simp only [List.mem_cons, exists_eq_or_imp, eq_comm (a := m)]

/-- Nothing is marked yet. -/
theorem not_marked_ofString (text : String) : ¬ (ofString text).Marked position m := by
  rintro ⟨c, here, marked⟩
  simp only [get?, ofString, List.getElem?_map, Option.map_eq_some_iff] at here
  obtain ⟨char, _, rfl⟩ := here
  exact MarkSet.not_mem_empty m marked

theorem length_ofString (text : String) : (ofString text).length = text.length := by
  rw [← length_text, text_ofString]

/-- **Neither order nor repetition counts**: writing the same marks over the same spans comes to the
same. -/
theorem writeAll_eq_of_mem_iff {writes others : List (Span × Mark)}
    (same : ∀ w, w ∈ others ↔ w ∈ writes) : t.writeAll others = t.writeAll writes := by
  apply eq_of_marked_iff
  · rw [text_writeAll, text_writeAll]
  · intro position _ m
    simp only [marked_writeAll, same]

/-- What lies outside the text of a span has no effect. -/
theorem write_clip (t : MarkedText) (span : Span) (mark : Mark) :
    t.write (span.clip t.length) mark = t.write span mark := by
  apply eq_of_marked_iff
  · rw [text_write, text_write]
  · intro position inside m
    rw [length_write] at inside
    simp only [marked_write]
    apply or_congr_right
    apply and_congr_right
    intro _
    rw [← and_assoc, span.mem_clip_iff inside, and_assoc]

end MarkedText

namespace Fragment

/-- The fragment with several marks, added one after the other. -/
def addMarks (f : Fragment) (marks : List (Span × Mark)) : Fragment :=
  marks.foldl (fun f m => f.addMark m.1 m.2) f

/-- A new fragment shows its text. -/
theorem characters_ofLine (line : Line) (supply : Supply) :
    (ofLine line supply).1.characters = .ofString line.text := rfl

/-- A mark that is added to a fragment is written on its characters, over the span as it was
given. -/
theorem characters_addMark (f : Fragment) (span : Span) (mark : Mark) :
    (f.addMark span mark).characters = f.characters.write span mark := by
  have last : (f.addMark span mark).characters =
      f.characters.write (span.clip f.length) mark := by
    simp only [characters, addMark, List.foldl_append, List.foldl_cons, List.foldl_nil]
    rfl
  rw [last, ← length_characters, MarkedText.write_clip]

/-- **Marks that are added to a fragment are written on its characters**, over the spans as they
were given. -/
theorem characters_addMarks (f : Fragment) (marks : List (Span × Mark)) :
    (f.addMarks marks).characters = f.characters.writeAll marks := by
  induction marks generalizing f with
  | nil => rfl
  | cons m rest ih =>
      rw [addMarks, List.foldl_cons, ← addMarks, ih, characters_addMark, MarkedText.writeAll_cons]

end Fragment

/-- **Writing marks builds their union.** Marks are written on a text without marks, each over a
span of any kind. The characters stay, and each has exactly the marks that were written over it,
whatever the order and however often. Adding the marks to a fragment comes to writing them on its
characters, which for a new fragment are its text without marks. -/
theorem MarkedText.writes_build_union (text : String) (writes : List (Span × Mark)) :
    ((ofString text).writeAll writes).text = text ∧
      (∀ position m, ((ofString text).writeAll writes).Marked position m ↔
        position < text.length ∧
          ∃ w ∈ writes, w.1.start ≤ position ∧ position < w.1.stop ∧ w.2 = m) ∧
      (∀ others, (∀ w, w ∈ others ↔ w ∈ writes) →
        (ofString text).writeAll others = (ofString text).writeAll writes) ∧
      (∀ f : Fragment, (f.addMarks writes).characters = f.characters.writeAll writes) ∧
      ∀ line supply, ((Fragment.ofLine line supply).1.addMarks writes).characters =
        (ofString line.text).writeAll writes := by
  refine ⟨?_, ?_, ?_, ?_, ?_⟩
  · rw [text_writeAll, text_ofString]
  · intro position m
    rw [marked_writeAll, or_iff_right (not_marked_ofString text), length_ofString]
  · intro others same
    exact writeAll_eq_of_mem_iff same
  · intro f
    exact f.characters_addMarks writes
  · intro line supply
    rw [Fragment.characters_addMarks, Fragment.characters_ofLine]

end Highlight
