import Highlight.Proofs.Document.Layout
import Highlight.Proofs.Document.Pool

/-!
# Positions in a block

In a block with different keys the index of a fragment's key is the fragment's place in
the row (`indexOf?_of_getElem?`). The characters of the block's text behind the offset
are the fragment's (`slice_text_of_split`), and the line breaks before it are as many as
the index says (`count_take_text_of_split`).

The whole text holds the characters of the fragments and a line break between each and
the next (`length_text_of_ne_nil`).

Every block that a program comes to is laid out in this way, whatever was done to it and
to its copies (`layout_of_live`).
-/

namespace Highlight

set_option autoImplicit false

namespace Block

/-- The index of a key is the place of its fragment in the row. -/
theorem indexOf?_of_getElem? {b : Block} (distinct : b.keys.Nodup) {index : Nat} {f : Fragment}
    (at' : b.fragments[index]? = some f) : b.indexOf? f.key = some index := by
  obtain ⟨inside, isF⟩ := List.getElem?_eq_some_iff.1 at'
  refine List.findIdx?_eq_some_iff_getElem.2 ⟨inside, ?_, ?_⟩
  · simp only [isF, decide_true]
  · intro earlier before same
    have insideKeys : index < b.keys.length := by rwa [keys, List.length_map]
    have earlierKeys : earlier < b.keys.length := Nat.lt_trans before insideKeys
    have sameKey : b.keys[earlier] = b.keys[index] := by
      simp only [keys, List.getElem_map, isF]
      exact of_decide_eq_true same
    exact Nat.ne_of_lt before (distinct.getElem_inj_iff.1 sameKey)

/-- A place in the row cuts it around the fragment there. -/
theorem split_of_getElem? {b : Block} {index : Nat} {f : Fragment}
    (at' : b.fragments[index]? = some f) :
    b.fragments = b.fragments.take index ++ f :: b.fragments.drop (index + 1) ∧
      (b.fragments.take index).length = index := by
  obtain ⟨inside, isF⟩ := List.getElem?_eq_some_iff.1 at'
  refine ⟨?_, ?_⟩
  · rw [← isF, List.getElem_cons_drop, List.take_append_drop]
  · rw [List.length_take, Nat.min_eq_left (Nat.le_of_lt inside)]

section Split

variable {b : Block} {before after : List Fragment} {f : Fragment}
  (split : b.fragments = before ++ f :: after)
include split

/-- The characters behind the offset are the fragment's. -/
theorem slice_text_of_split :
    (b.text.toList.drop (b.offsetAt before.length)).take f.length = f.text.toList := by
  have own : f.length = f.text.toList.length := String.length_toList.symm
  rw [text_of_split split, offset_of_split split, List.append_assoc, List.drop_left, own,
    List.take_left]

/-- Before the offset there is a line break for each fragment before. -/
theorem count_take_text_of_split :
    (b.text.toList.take (b.offsetAt before.length)).count lineBreak = before.length := by
  rw [text_of_split split, offset_of_split split, List.append_assoc, List.take_left,
    count_closedLines fun _ member => unbroken_of_mem_texts member, List.length_map]

/-- The offset is the length of the fragments before and of a line break for each. -/
theorem offsetAt_of_split :
    b.offsetAt before.length = (before.map fun g => g.text.length).sum + before.length := by
  rw [offset_of_split split, length_closedLines, List.length_map, List.map_map]
  rfl

/-- The text ends with the fragments behind and a line break for each. -/
theorem length_text_of_split :
    b.text.length = b.offsetAt before.length + f.length +
      ((after.map fun g => g.text.length).sum + after.length) := by
  rw [← String.length_toList, text_of_split split, List.length_append, List.length_append,
    ← offset_of_split split, length_openedLines, List.length_map, List.map_map,
    String.length_toList]
  rfl

end Split

/-- The text of a block with fragments takes a line break between each and the next. -/
theorem length_text_of_ne_nil {b : Block} (present : b.fragments ≠ []) :
    b.text.length = b.contentLength + (b.fragments.length - 1) := by
  obtain ⟨f, after, isCons⟩ := List.exists_cons_of_ne_nil present
  have split : b.fragments = [] ++ f :: after := isCons
  have whole := length_text_of_split split
  have start : b.offsetAt ([] : List Fragment).length = 0 := offsetAt_of_split split
  have content : b.contentLength = f.length + (after.map fun g => g.text.length).sum := by
    rw [contentLength, isCons, lengthOf_eq, List.map_cons, List.map_cons, List.sum_cons,
      List.map_map]
    rfl
  rw [whole, start, content, isCons, List.length_cons]
  omega

/-- **How a block is laid out.** In every block that a program comes to, no fragment has a
line break and no two have the same key. The fragment at an index is told by its key; its
characters stand behind its offset, with as many line breaks before as there are
fragments before, and the offset less these line breaks is the length of the fragments
before. The content length counts all characters that are no line breaks, and the text
has a line break between each fragment and the next besides. -/
theorem layout_of_live {edits : List Edit} {b : Block}
    (live : b ∈ (Pool.empty.run edits).blocks) :
    (∀ f ∈ b.fragments, lineBreak ∉ f.text.toList) ∧ b.keys.Nodup ∧
    (∀ (index : Nat) (f : Fragment), b.fragments[index]? = some f →
      b.indexOf? f.key = some index ∧
      ∃ offset, b.offsetOf? f.key = some offset ∧
        offset + f.length ≤ b.text.length ∧
        (b.text.toList.drop offset).take f.length = f.text.toList ∧
        (b.text.toList.take offset).count lineBreak = index ∧
        index ≤ offset ∧
        offset - index = ((b.fragments.take index).map fun g => g.text.length).sum) ∧
    b.contentLength = (b.text.toList.filter (· ≠ lineBreak)).length ∧
    (b.fragments ≠ [] → b.text.length = b.contentLength + (b.fragments.length - 1)) := by
  have distinct : b.keys.Nodup := ((Pool.sound_empty.run edits).given b live).distinct
  refine ⟨fun f _ => f.unbroken, distinct, ?_, ?_, length_text_of_ne_nil⟩
  · intro index f at'
    have found := indexOf?_of_getElem? distinct at'
    obtain ⟨split, before⟩ := split_of_getElem? at'
    have offset := offsetAt_of_split split
    have whole := length_text_of_split split
    have slice := slice_text_of_split split
    have breaks := count_take_text_of_split split
    rw [before] at offset whole slice breaks
    refine ⟨found, b.offsetAt index, ?_, ?_, slice, breaks, ?_, ?_⟩
    · rw [offsetOf?, found, Option.map_some]
    · omega
    · omega
    · omega
  · rw [← measure_text]
    simp only [Mode.measure, bne, decide_not, beq_eq_decide]

/-- The empty line between two others of which one was put in later. -/
theorem layout_of_live_empty_line :
    let edits : List Edit := [.code "rust" "a\n", .copy 0, .insert 0 1 "bc"]
    ∃ b ∈ (Pool.empty.run edits).blocks, ∃ f, b.fragments[2]? = some f ∧
      b.offsetOf? f.key = some 5 ∧ b.text.length = 5 := by
  intro edits
  let b : Block := { (Block.code "rust" "" .full).1 with
    fragments := [⟨⟨3⟩, ⟨"a", by decide⟩, []⟩, ⟨⟨5⟩, ⟨"bc", by decide⟩, []⟩,
      ⟨⟨4⟩, ⟨"", by decide⟩, []⟩]
    revision := ⟨6⟩ }
  have live : b ∈ (Pool.empty.run edits).blocks := by decide
  obtain ⟨_, _, positions, _, length⟩ := layout_of_live live
  obtain ⟨_, offset, isOffset, _, _, _, le, before⟩ := positions 2 _ rfl
  have atFive : offset = 5 := by
    have three : ((b.fragments.take 2).map fun g => g.text.length).sum = 3 := by decide
    omega
  refine ⟨b, live, _, rfl, atFive ▸ isOffset, ?_⟩
  rw [length (by decide)]
  decide

end Block

end Highlight
