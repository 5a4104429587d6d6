import Highlight.Proofs.Mark.Writing
import Mathlib.Data.List.Sort

/-!
# When marked texts are the same

A set of marks is kept as an ascending list, so sets with the same members are equal
(`MarkSet.ext`). A marked text is told by its characters and by which marks are on each of
them (`MarkedText.eq_of_marked_iff`).
-/

namespace Highlight

set_option autoImplicit false

instance : Std.Irrefl (fun m n : Mark => m < n) := ⟨Mark.lt_irrefl⟩

instance : Std.Antisymm (fun m n : Mark => m < n) :=
  ⟨fun m _ less greater => absurd (Mark.lt_trans less greater) (Mark.lt_irrefl m)⟩

/-- Sets with the same members are equal. -/
theorem MarkSet.ext {s t : MarkSet} (same : ∀ m, m ∈ s ↔ m ∈ t) : s = t := by
  obtain ⟨marks, ascending⟩ := s
  obtain ⟨others, ascendingOthers⟩ := t
  have equal : marks = others := ascending.eq_of_mem_iff ascendingOthers same
  subst equal
  rfl

namespace MarkedText

/-- **Marked texts are equal** if they have the same characters with the same marks. -/
theorem eq_of_marked_iff {s t : MarkedText} (text : s.text = t.text)
    (marked : ∀ position < s.length, ∀ m, s.Marked position m ↔ t.Marked position m) : s = t := by
  have chars : s.chars.map (·.char) = t.chars.map (·.char) := by
    have lists := congrArg String.toList text
    rwa [MarkedText.text, MarkedText.text, String.toList_ofList, String.toList_ofList] at lists
  have length : s.chars.length = t.chars.length := by
    rw [← List.length_map (f := (·.char)), chars, List.length_map]
  obtain ⟨first⟩ := s
  obtain ⟨second⟩ := t
  refine congrArg MarkedText.mk (List.ext_getElem length fun position inFirst inSecond => ?_)
  have sameChar : first[position].char = second[position].char := by
    have at' := congrArg (·[position]?) chars
    simp only [List.getElem?_map, List.getElem?_eq_getElem inFirst,
      List.getElem?_eq_getElem inSecond, Option.map_some, Option.some.injEq] at at'
    exact at'
  have sameMarks : first[position].marks = second[position].marks := by
    apply MarkSet.ext
    intro m
    have iff := marked position inFirst m
    simp only [Marked, get?, List.getElem?_eq_getElem inFirst, List.getElem?_eq_getElem inSecond,
      Option.some.injEq, exists_eq_left'] at iff
    exact iff
  calc first[position]
    _ = ⟨first[position].char, first[position].marks⟩ := rfl
    _ = ⟨second[position].char, second[position].marks⟩ := by rw [sameChar, sameMarks]

end MarkedText

end Highlight
