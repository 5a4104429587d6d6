import Highlight.Decoration.Decorator
import Highlight.Proofs.Mark.Writing
import Highlight.Proofs.Token.Path

/-!
# The marks that leaves leave on a fragment

Of every leaf with a label, the positions inside the bounds of a fragment are
marked, counted from the beginning of the bounds. A position of the fragment
belongs to a part of a leaf exactly if the leaf covers it where it stands among
the leaves (`exists_within?_iff`), and so it gets the marks of the leaves that
cover it there, and no other (`marked_markLeaves`).
-/

namespace Highlight

set_option autoImplicit false

/-- The part of a span inside some bounds holds a position exactly if both hold
it where it stands. -/
theorem Span.exists_within?_iff (bounds span : Span) (position : Nat) :
    (∃ part, bounds.within? span = some part ∧ part.start ≤ position ∧ position < part.stop) ↔
      bounds.start + position < bounds.stop ∧
        span.start ≤ bounds.start + position ∧ bounds.start + position < span.stop := by
  simp only [within?]
  constructor
  · rintro ⟨part, found, low, high⟩
    split at found
    · next proper =>
      cases found
      simp only at low high
      omega
    · cases found
  · rintro ⟨inside, low, high⟩
    have proper : max span.start bounds.start < min span.stop bounds.stop := by omega
    rw [if_pos proper]
    refine ⟨_, rfl, ?_, ?_⟩ <;> simp only <;> omega

namespace MarkedText

variable (classPrefix : String) (bounds : Span)

/-- Marking a leaf changes no character. -/
theorem text_markLeaf (t : MarkedText) (leaf : Leaf) :
    (t.markLeaf classPrefix bounds leaf).text = t.text := by
  simp only [markLeaf]
  split
  · exact text_write t _ _
  · rfl

/-- Marking leaves changes no character. -/
theorem text_markLeaves (t : MarkedText) (leaves : List Leaf) :
    (t.markLeaves classPrefix bounds leaves).text = t.text := by
  induction leaves generalizing t with
  | nil => rfl
  | cons leaf rest ih => exact (ih _).trans (t.text_markLeaf classPrefix bounds leaf)

/-- A leaf puts its mark on the positions that it covers. -/
theorem marked_markLeaf (t : MarkedText) (leaf : Leaf) (position : Nat) (m : Mark) :
    (t.markLeaf classPrefix bounds leaf).Marked position m ↔
      t.Marked position m ∨
        (position < t.length ∧ bounds.start + position < bounds.stop ∧
          ∃ label, leaf.Covers (bounds.start + position) (some label) ∧
            m = .token classPrefix label) := by
  have part := Span.exists_within?_iff bounds leaf.span position
  simp only [markLeaf]
  split
  · next label span isLabel isPart =>
    rw [isPart] at part
    rw [marked_write]
    constructor
    · rintro (marked | ⟨inside, low, high, isMark⟩)
      · exact Or.inl marked
      · obtain ⟨within, covered⟩ := part.1 ⟨span, rfl, low, high⟩
        exact Or.inr ⟨inside, within, label, ⟨isLabel, covered⟩, isMark⟩
    · rintro (marked | ⟨inside, within, other, ⟨isOther, covered⟩, isMark⟩)
      · exact Or.inl marked
      · obtain ⟨_, ⟨rfl⟩, low, high⟩ := part.2 ⟨within, covered⟩
        have same : label = other := Option.some.inj (isLabel.symm.trans isOther)
        exact Or.inr ⟨inside, low, high, same ▸ isMark⟩
  · next none =>
    refine ⟨Or.inl, ?_⟩
    rintro (marked | ⟨_, within, label, ⟨isLabel, covered⟩, _⟩)
    · exact marked
    · obtain ⟨span, isPart, _⟩ := part.2 ⟨within, covered⟩
      exact absurd isPart (none label span isLabel)

/-- **Leaves put their marks on the positions that they cover**, and on no
others. -/
theorem marked_markLeaves (t : MarkedText) (leaves : List Leaf) (position : Nat) (m : Mark) :
    (t.markLeaves classPrefix bounds leaves).Marked position m ↔
      t.Marked position m ∨
        (position < t.length ∧ bounds.start + position < bounds.stop ∧
          ∃ label, (∃ leaf ∈ leaves, leaf.Covers (bounds.start + position) (some label)) ∧
            m = .token classPrefix label) := by
  induction leaves generalizing t with
  | nil => simp [markLeaves]
  | cons leaf rest ih =>
      have length : (t.markLeaf classPrefix bounds leaf).length = t.length := by
        rw [← length_text, text_markLeaf, length_text]
      refine (ih _).trans ?_
      rw [marked_markLeaf, length, or_assoc, ← and_or_left, ← and_or_left, ← exists_or]
      simp only [List.mem_cons, exists_eq_or_imp]
      simp only [or_and_right]

end MarkedText

end Highlight
