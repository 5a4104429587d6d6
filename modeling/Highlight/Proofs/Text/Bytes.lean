import Highlight.Text.ByteOffset
import Mathlib.Order.Basic

/-!
# Places, spans and bytes

Where a text is measured in bytes, its characters have different sizes but none is empty. So
places and byte offsets are in the same order (`byteOffset_lt`), and each offset at the border of
two characters belongs to one place (`borderAt?_byteOffset`).

A range of bytes can be cut out of a text if it is not inverted and both its ends are such
borders (`sliceBytes?`). That is so of every span inside the text, and the range holds the same
characters (`sliceBytes?_inBytes`). What is found in a part of a text that is cut out has its
offsets there moved by the offset of the part (`Span.inBytes_shift`).
-/

namespace Highlight

set_option autoImplicit false

variable {text : Array Char} {place other : Nat} {span : Span}

/-! ## Places -/

theorem byteCount_append (first second : List Char) :
    byteCount (first ++ second) = byteCount first + byteCount second := by
  induction first with
  | nil => rw [List.nil_append, byteCount, Nat.zero_add]
  | cons c rest ih => rw [List.cons_append, byteCount, byteCount, ih, Nat.add_assoc]

theorem byteCount_pos {cs : List Char} (some' : cs ≠ []) : 0 < byteCount cs := by
  cases cs with
  | nil => exact absurd rfl some'
  | cons c rest => exact Nat.add_pos_left c.utf8Size_pos _

/-- The bytes before a later place are those before an earlier one and those in between. -/
theorem byteOffset_eq_add (le : place ≤ other) :
    byteOffset text other =
      byteOffset text place + byteCount ((text.toList.take other).drop place) := by
  have halves := List.take_append_drop place (text.toList.take other)
  rw [List.take_take, Nat.min_eq_left le] at halves
  rw [byteOffset, byteOffset, ← byteCount_append, halves]

theorem byteOffset_le (le : place ≤ other) : byteOffset text place ≤ byteOffset text other := by
  rw [byteOffset_eq_add le]
  exact Nat.le_add_right _ _

/-- **The order of places is the order of their byte offsets.** -/
theorem byteOffset_lt (before : place < other) (inside : other ≤ text.size) :
    byteOffset text place < byteOffset text other := by
  rw [byteOffset_eq_add (Nat.le_of_lt before)]
  refine Nat.lt_add_of_pos_right (byteCount_pos fun none => ?_)
  have length := congrArg List.length none
  rw [List.length_drop, List.length_take, Array.length_toList, List.length_nil] at length
  omega

theorem byteOffset_le_iff (inside : place ≤ text.size) :
    byteOffset text place ≤ byteOffset text other ↔ place ≤ other := by
  constructor
  · intro le
    by_contra before
    exact Nat.not_lt.2 le (byteOffset_lt (Nat.not_le.1 before) inside)
  · exact byteOffset_le

theorem byteOffset_lt_iff (inside : other ≤ text.size) :
    byteOffset text place < byteOffset text other ↔ place < other := by
  rw [← Nat.not_le, byteOffset_le_iff inside, Nat.not_le]

/-- Behind a character its bytes have been passed. -/
theorem byteOffset_succ {c : Char} (present : text[place]? = some c) :
    byteOffset text (place + 1) = byteOffset text place + c.utf8Size := by
  have listed : text.toList[place]? = some c := Array.getElem?_toList.trans present
  rw [byteOffset, List.take_add_one, listed, byteCount_append]
  rfl

/-! ## Ranges of bytes -/

/-- How many bytes a text has. -/
def byteLength (text : Array Char) : Nat := byteOffset text text.size

/-- The place at a byte offset. There is none inside of a character and none past the end. -/
def borderAt? (text : Array Char) (offset : Nat) : Option Nat :=
  (List.range (text.size + 1)).find? fun place => byteOffset text place = offset

/-- The characters in a range of bytes. They cannot be had if the range is inverted, if it leaves
the text or if one of its ends is inside of a character. -/
def sliceBytes? (text : Array Char) (range : Span) : Option (Array Char) :=
  if range.start ≤ range.stop then
    match borderAt? text range.start, borderAt? text range.stop with
    | some start, some stop => some (text.extract start stop)
    | _, _ => none
  else none

/-- A span in bytes. -/
def Span.inBytes (text : Array Char) (span : Span) : Span :=
  ⟨byteOffset text span.start, byteOffset text span.stop⟩

/-- **The offset of a place is a border.** -/
theorem borderAt?_byteOffset (inside : place ≤ text.size) :
    borderAt? text (byteOffset text place) = some place := by
  rw [borderAt?, List.find?_range_eq_some]
  refine ⟨decide_eq_true rfl, List.mem_range.2 (Nat.lt_succ_of_le inside), ?_⟩
  intro earlier before
  have less := byteOffset_lt before inside
  simp only [Bool.not_eq_eq_eq_not, Bool.not_true, decide_eq_false_iff_not]
  exact Nat.ne_of_lt less

/-- **A span inside a text can be cut out in bytes.** -/
theorem sliceBytes?_inBytes (ordered : span.start ≤ span.stop) (inside : span.stop ≤ text.size) :
    sliceBytes? text (span.inBytes text) = some (span.slice text) := by
  have starts : borderAt? text (byteOffset text span.start) = some span.start :=
    borderAt?_byteOffset (Nat.le_trans ordered inside)
  have stops := borderAt?_byteOffset inside
  have le : (span.inBytes text).start ≤ (span.inBytes text).stop := byteOffset_le ordered
  rw [sliceBytes?, if_pos le]
  simp only [Span.inBytes, starts, stops, Span.slice]

/-- A range that ends inside of a character cannot be cut out. -/
example : sliceBytes? #['é', 'a'] ⟨0, 1⟩ = none := by
  decide

/-- A span inside a text is empty in bytes exactly if it is empty. -/
theorem isEmpty_inBytes (inside : span.stop ≤ text.size) :
    (span.inBytes text).isEmpty = span.isEmpty := by
  rw [Bool.eq_iff_iff, Span.isEmpty_iff, Span.isEmpty_iff]
  exact byteOffset_le_iff inside

/-- The offset of a place of a part is its offset in the part behind that of the part. -/
theorem byteOffset_slice (inside : span.start + place ≤ span.stop) :
    byteOffset text (span.start + place) =
      byteOffset text span.start + byteOffset (span.slice text) place := by
  have part : (text.toList.take (span.start + place)).drop span.start =
      (span.slice text).toList.take place := by
    rw [Span.slice, Array.toList_extract, List.extract_eq_take_drop, List.take_take,
      List.drop_take, Nat.add_sub_cancel_left, Nat.min_eq_left (by omega)]
  rw [byteOffset_eq_add (Nat.le_add_right _ _), part]
  rfl

/-- **What is found in a part of a text** is found in bytes where it is in characters. -/
theorem Span.inBytes_shift {region : Span} (ordered : span.start ≤ span.stop)
    (inside : region.start + span.stop ≤ region.stop) :
    (span.inBytes (region.slice text)).shift (byteOffset text region.start) =
      (span.shift region.start).inBytes text := by
  have starts : region.start + span.start ≤ region.stop := by omega
  simp only [Span.inBytes, Span.shift, byteOffset_slice starts, byteOffset_slice inside]

end Highlight
