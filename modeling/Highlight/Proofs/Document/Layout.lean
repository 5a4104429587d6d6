import Highlight.Proofs.Document.Numbering
import Highlight.Proofs.Text.JoinedLines
import Highlight.Token.Leaf

/-!
# Where a fragment stands in its block's text

The index of a key cuts the row of fragments in two around the fragment of that
key (`exists_split_of_indexOf?`). The text of the block is cut in the same way
(`text_of_split`): as many characters as the offset says come first, with a line
break among them for each fragment before it (`offset_of_split`,
`countP_take_text_of_split`), and then the fragment's own.

The content length counts the characters of the block's text that are no line
breaks (`measure_text`).
-/

namespace Highlight

set_option autoImplicit false

theorem Fragment.unbroken (f : Fragment) : lineBreak ∉ f.text.toList := f.line.unbroken

theorem unbroken_of_mem_texts {fragments : List Fragment} {line : String}
    (member : line ∈ fragments.map Fragment.text) : lineBreak ∉ line.toList := by
  obtain ⟨f, _, rfl⟩ := List.mem_map.1 member
  exact f.unbroken

namespace Block

/-- An index is the number of fragments before the one of its key. -/
theorem exists_split_of_indexOf? {b : Block} {key : FragmentKey} {index : Nat}
    (found : b.indexOf? key = some index) :
    ∃ before f after, b.fragments = before ++ f :: after ∧ before.length = index ∧
      f.key = key := by
  obtain ⟨inside, same, _⟩ := List.findIdx?_eq_some_iff_getElem.1 found
  refine ⟨b.fragments.take index, b.fragments[index], b.fragments.drop (index + 1), ?_, ?_, ?_⟩
  · rw [List.getElem_cons_drop, List.take_append_drop]
  · rw [List.length_take, Nat.min_eq_left (Nat.le_of_lt inside)]
  · simpa using same

/-- A key has no index exactly if no fragment of the block has it. -/
theorem indexOf?_eq_none_iff {b : Block} {key : FragmentKey} :
    b.indexOf? key = none ↔ key ∉ b.keys := by
  simp only [indexOf?, List.findIdx?_eq_none_iff, decide_eq_false_iff_not, keys, List.mem_map,
    not_exists, not_and]

theorem exists_indexOf?_of_mem {b : Block} {key : FragmentKey} (member : key ∈ b.keys) :
    ∃ index, b.indexOf? key = some index := by
  cases found : b.indexOf? key with
  | none => exact absurd member (indexOf?_eq_none_iff.1 found)
  | some index => exact ⟨index, rfl⟩

/-- Among different keys, one tells its fragment. -/
theorem eq_of_key_eq {b : Block} (distinct : b.keys.Nodup) {f g : Fragment}
    (memberF : f ∈ b.fragments) (memberG : g ∈ b.fragments) (same : f.key = g.key) : f = g :=
  List.inj_on_of_nodup_map distinct memberF memberG same

theorem lengthOf_eq (fragments : List Fragment) :
    lengthOf fragments = ((fragments.map Fragment.text).map String.length).sum := by
  induction fragments with
  | nil => rfl
  | cons f rest ih =>
      simp only [lengthOf, ih, List.map_cons, List.sum_cons]
      rfl

section Split

variable {b : Block} {before after : List Fragment} {f : Fragment}
  (split : b.fragments = before ++ f :: after)
include split

theorem mem_of_split : f ∈ b.fragments := by
  rw [split]
  exact List.mem_append_right _ List.mem_cons_self

/-- The text of the block runs through the lines before, the fragment and the
lines behind it. -/
theorem text_of_split : b.text.toList =
    closedLines (before.map Fragment.text) ++ f.text.toList ++
      openedLines (after.map Fragment.text) := by
  rw [Block.text, split, List.map_append, List.map_cons]
  exact toList_joinLines_append _ _ _

/-- The offset is the length of what stands before the fragment. -/
theorem offset_of_split :
    b.offsetAt before.length = (closedLines (before.map Fragment.text)).length := by
  rw [offsetAt, split, List.take_left, lengthOf_eq, length_closedLines, List.length_map]

/-- The characters of the fragment stand behind its offset. -/
theorem getElem?_text_of_split {position : Nat} (inside : position < f.length) :
    b.text.toList[b.offsetAt before.length + position]? = f.text.toList[position]? := by
  have present : position < f.text.toList.length := by rwa [String.length_toList]
  rw [text_of_split split, offset_of_split split, List.append_assoc,
    List.getElem?_append_right (Nat.le_add_right _ _), Nat.add_sub_cancel_left,
    List.getElem?_append_left present]

/-- **Before a character of the fragment** there stand as many characters that are no
line breaks as its place says, less one for each fragment before. -/
theorem countP_take_text_of_split {position : Nat} (inside : position ≤ f.length) :
    (b.text.toList.take (b.offsetAt before.length + position)).countP (· != lineBreak) =
      b.offsetAt before.length - before.length + position := by
  have present : position ≤ f.text.toList.length := by rwa [String.length_toList]
  have own : (f.text.toList.take position).countP (· != lineBreak) = position := by
    have unbroken : lineBreak ∉ f.text.toList.take position := fun member =>
      f.unbroken (List.mem_of_mem_take member)
    rw [List.countP_eq_length_filter, filter_unbroken unbroken, List.length_take,
      Nat.min_eq_left present]
  have others : (closedLines (before.map Fragment.text)).countP (· != lineBreak) =
      b.offsetAt before.length - before.length := by
    rw [List.countP_eq_length_filter,
      filter_closedLines fun _ member => unbroken_of_mem_texts member, List.length_flatMap,
      offset_of_split split, length_closedLines, List.length_map, Nat.add_sub_cancel]
    rfl
  rw [text_of_split split, offset_of_split split, List.append_assoc, List.take_length_add_append,
    List.take_append_of_le_length present, List.countP_append, own, others, offset_of_split split]

end Split

/-- The content length of a block counts what is no line break in its text. -/
theorem measure_text (b : Block) : Mode.joined.measure b.text = b.contentLength := by
  simp only [Mode.measure, Block.text, contentLength, lengthOf_eq]
  rw [filter_joinLines fun _ member => unbroken_of_mem_texts member, List.length_flatMap]
  rfl

end Block

end Highlight
