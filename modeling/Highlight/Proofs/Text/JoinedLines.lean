import Highlight.Text.Line
import Mathlib.Algebra.Ring.Nat

/-!
# Where a line stands in joined lines

The lines of a block are joined with a line break between each and the next. A
line therefore stands behind the lines before it, each closed by a line break,
and in front of the lines behind it, each opened by one
(`toList_joinLines_append`).

As no line holds a line break, the characters that are left when the line breaks are
dropped are the lines' own, of closed, of opened and of joined lines
(`filter_closedLines`, `filter_openedLines`, `filter_joinLines`).
-/

namespace Highlight

set_option autoImplicit false

/-- The characters of some lines, each with a line break behind it. -/
def closedLines (lines : List String) : List Char :=
  lines.flatMap fun line => line.toList ++ [lineBreak]

/-- The characters of some lines, each with a line break before it. -/
def openedLines (lines : List String) : List Char :=
  lines.flatMap fun line => lineBreak :: line.toList

theorem closedLines_cons (line : String) (rest : List String) :
    closedLines (line :: rest) = line.toList ++ lineBreak :: closedLines rest := by
  simp only [closedLines, List.flatMap_cons, List.append_assoc, List.cons_append,
    List.nil_append]

theorem openedLines_cons (line : String) (rest : List String) :
    openedLines (line :: rest) = lineBreak :: (line.toList ++ openedLines rest) := rfl

theorem toList_lineBreak : lineBreak.toString.toList = [lineBreak] := rfl

/-- Joined lines begin with the first line. -/
theorem toList_joinLines_cons (line : String) (rest : List String) :
    (joinLines (line :: rest)).toList = line.toList ++ openedLines rest := by
  induction rest generalizing line with
  | nil => simp only [joinLines, openedLines, List.flatMap_nil, List.append_nil]
  | cons next rest ih =>
      simp only [joinLines, String.toList_append, ih next, toList_lineBreak, openedLines_cons,
        List.append_assoc, List.cons_append, List.nil_append]

/-- **A line among joined lines.** It stands behind the closed lines before it
and in front of the opened lines behind it. -/
theorem toList_joinLines_append (before after : List String) (line : String) :
    (joinLines (before ++ line :: after)).toList =
      closedLines before ++ line.toList ++ openedLines after := by
  induction before with
  | nil => exact toList_joinLines_cons line after
  | cons first rest ih =>
      have opened : openedLines (rest ++ line :: after) =
          lineBreak :: (joinLines (rest ++ line :: after)).toList := by
        cases rest with
        | nil => rw [List.nil_append, toList_joinLines_cons]; rfl
        | cons next more => rw [List.cons_append, toList_joinLines_cons]; rfl
      rw [List.cons_append, toList_joinLines_cons, opened, ih, closedLines_cons]
      simp only [List.append_assoc, List.cons_append]

/-- Closed lines are the joined lines with one more line break, if there are any. -/
theorem closedLines_eq_joinLines {lines : List String} (nonempty : lines ≠ []) :
    closedLines lines = (joinLines lines).toList ++ [lineBreak] := by
  have split := List.dropLast_concat_getLast nonempty
  rw [← split, toList_joinLines_append, closedLines, List.flatMap_append, List.flatMap_singleton,
    openedLines, List.flatMap_nil, List.append_nil, closedLines, List.append_assoc]

/-- Closed lines take the characters of the lines and one line break each. -/
theorem length_closedLines (lines : List String) :
    (closedLines lines).length = (lines.map String.length).sum + lines.length := by
  induction lines with
  | nil => rfl
  | cons line rest ih =>
      rw [closedLines_cons, List.length_append, List.length_cons, ih, String.length_toList,
        List.map_cons, List.sum_cons, List.length_cons]
      omega

/-- So do opened lines. -/
theorem length_openedLines (lines : List String) :
    (openedLines lines).length = (lines.map String.length).sum + lines.length := by
  induction lines with
  | nil => rfl
  | cons line rest ih =>
      rw [openedLines_cons, List.length_cons, List.length_append, ih, String.length_toList,
        List.map_cons, List.sum_cons, List.length_cons]
      omega

/-- Among closed lines there is a line break for each line. -/
theorem count_closedLines {lines : List String}
    (unbroken : ∀ line ∈ lines, lineBreak ∉ line.toList) :
    (closedLines lines).count lineBreak = lines.length := by
  induction lines with
  | nil => rfl
  | cons line rest ih =>
      have later := ih fun other member => unbroken other (List.mem_cons_of_mem _ member)
      rw [closedLines_cons, List.count_append, List.count_cons_self, later,
        List.count_eq_zero_of_not_mem (unbroken line List.mem_cons_self), Nat.zero_add,
        List.length_cons]

/-- Dropping the line breaks from an unbroken line changes nothing. -/
theorem filter_unbroken {line : List Char} (unbroken : lineBreak ∉ line) :
    line.filter (· != lineBreak) = line := by
  rw [List.filter_eq_self]
  intro c member
  exact bne_iff_ne.2 fun same => unbroken (same ▸ member)

/-- The characters of closed lines that are no line breaks are the lines' own. -/
theorem filter_closedLines {lines : List String}
    (unbroken : ∀ line ∈ lines, lineBreak ∉ line.toList) :
    (closedLines lines).filter (· != lineBreak) = lines.flatMap String.toList := by
  induction lines with
  | nil => rfl
  | cons line rest ih =>
      have later := ih fun other member => unbroken other (List.mem_cons_of_mem _ member)
      rw [closedLines_cons, List.filter_append, List.filter_cons_of_neg (by decide),
        filter_unbroken (unbroken line List.mem_cons_self), later, List.flatMap_cons]

theorem filter_openedLines {lines : List String}
    (unbroken : ∀ line ∈ lines, lineBreak ∉ line.toList) :
    (openedLines lines).filter (· != lineBreak) = lines.flatMap String.toList := by
  induction lines with
  | nil => rfl
  | cons line rest ih =>
      have later := ih fun other member => unbroken other (List.mem_cons_of_mem _ member)
      rw [openedLines_cons, List.filter_cons_of_neg (by decide), List.filter_append,
        filter_unbroken (unbroken line List.mem_cons_self), later, List.flatMap_cons]

/-- The characters of joined lines that are no line breaks are the lines'
own. -/
theorem filter_joinLines {lines : List String}
    (unbroken : ∀ line ∈ lines, lineBreak ∉ line.toList) :
    (joinLines lines).toList.filter (· != lineBreak) = lines.flatMap String.toList := by
  cases lines with
  | nil => rfl
  | cons line rest =>
      have later := filter_openedLines fun other member =>
        unbroken other (List.mem_cons_of_mem _ member)
      rw [toList_joinLines_cons, List.filter_append,
        filter_unbroken (unbroken line List.mem_cons_self), later, List.flatMap_cons]

end Highlight
