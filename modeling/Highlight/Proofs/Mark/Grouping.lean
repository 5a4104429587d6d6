import Highlight.Mark.Text

/-!
# The runs of a marked text

Characters are grouped into runs from the front, each joining the last run found or
beginning a new one. Grouping them from the end, where each joins the first run behind it,
comes to the same (`runs_eq_runsFrom`).

Grouping loses no characters and keeps their order: read one after the other, the runs
have the characters of the text (`characters_runs`).
-/

namespace Highlight

set_option autoImplicit false

theorem Run.toList_text (run : Run) : run.text.toList = run.characters := String.toList_ofList

namespace MarkedText

/-- The runs of some characters, the first of which stands at a position. -/
def runsFrom : Nat → List MarkedChar → List Run
  | _, [] => []
  | position, c :: rest =>
      match runsFrom (position + 1) rest with
      | [] => [.single position c]
      | run :: runs =>
          if run.marks = c.marks then
            ⟨⟨position, run.span.stop⟩, c.char :: run.characters, run.marks⟩ :: runs
          else .single position c :: run :: runs

/-- Some runs, the last one first, with the runs behind them. The last one and the first
one behind it become one if they have the same marks. -/
def join : List Run → List Run → List Run
  | run :: earlier, next :: later =>
      if run.marks = next.marks then
        earlier.reverse ++
          ⟨⟨run.span.start, next.span.stop⟩, run.characters ++ next.characters, run.marks⟩ :: later
      else (run :: earlier).reverse ++ next :: later
  | earlier, later => earlier.reverse ++ later

/-- It makes no difference whether a character joins the runs before it or those behind
it. -/
theorem join_addChar (earlier : List Run) (c : MarkedChar) (position : Nat)
    (chars : List MarkedChar) :
    join (addChar earlier (c, position)) (runsFrom (position + 1) chars) =
      join earlier (runsFrom position (c :: chars)) := by
  rw [runsFrom]
  cases earlier with
  | nil =>
      cases runsFrom (position + 1) chars with
      | nil => rfl
      | cons next later =>
          by_cases joins : next.marks = c.marks
          · simp [addChar, join, Run.single, joins]
          · simp [addChar, join, Run.single, joins, Ne.symm joins]
  | cons run earlier =>
      by_cases grows : run.marks = c.marks
      · cases runsFrom (position + 1) chars with
        | nil => simp [addChar, join, Run.single, grows]
        | cons next later =>
            by_cases joins : next.marks = c.marks
            · simp [addChar, join, grows, joins]
            · simp [addChar, join, Run.single, grows, joins, Ne.symm joins]
      · cases runsFrom (position + 1) chars with
        | nil => simp [addChar, join, Run.single, grows]
        | cons next later =>
            by_cases joins : next.marks = c.marks
            · simp [addChar, join, Run.single, grows, joins]
            · simp [addChar, join, Run.single, grows, joins, Ne.symm joins]

/-- Characters behind some runs come to the same as their runs behind them. -/
theorem reverse_foldl_addChar (chars : List MarkedChar) (earlier : List Run) (position : Nat) :
    ((chars.zipIdx position).foldl addChar earlier).reverse =
      join earlier (runsFrom position chars) := by
  induction chars generalizing earlier position with
  | nil => cases earlier <;> simp [runsFrom, join]
  | cons c rest ih => rw [List.zipIdx_cons, List.foldl_cons, ih, join_addChar]

/-- **The runs can be found from the end of the text as well.** -/
theorem runs_eq_runsFrom (t : MarkedText) : t.runs = runsFrom 0 t.chars := by
  rw [runs, reverse_foldl_addChar]
  exact List.nil_append _

/-- A run has the first character, and the runs of the rest have the others. -/
theorem characters_runsFrom (position : Nat) (chars : List MarkedChar) :
    (runsFrom position chars).flatMap Run.characters = chars.map MarkedChar.char := by
  induction chars generalizing position with
  | nil => rfl
  | cons c rest ih =>
      have later := ih (position + 1)
      simp only [runsFrom, List.map_cons]
      split
      · next none =>
        rw [none] at later
        rw [← later]
        rfl
      · next run runs found =>
        rw [found] at later
        split
        · rw [← later]
          rfl
        · rw [← later]
          rfl

/-- **The runs have the characters of the text**, in order. -/
theorem characters_runs (t : MarkedText) : t.runs.flatMap Run.characters = t.text.toList := by
  rw [text, String.toList_ofList, runs_eq_runsFrom, characters_runsFrom]

end MarkedText

end Highlight
