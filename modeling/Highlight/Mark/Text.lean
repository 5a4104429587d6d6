import Highlight.Text.Span
import Highlight.Mark.Basic

/-!
# Marked text

Marked text is a text with a set of marks on each of its characters. Writing a
mark over a span adds it to the characters in the span and touches nothing else;
parts of the span outside the text have no effect.

For showing, the characters are grouped into runs, as long as possible, of
neighbours with the same marks.
-/

namespace Highlight

set_option autoImplicit false

/-- A character with its marks. -/
structure MarkedChar where
  char : Char
  marks : MarkSet
deriving DecidableEq

/-- A text with marks on its characters. -/
structure MarkedText where
  chars : List MarkedChar
deriving DecidableEq

/-- Neighbouring characters with the same marks, and where they stand. -/
structure Run where
  span : Span
  characters : List Char
  marks : MarkSet
deriving DecidableEq

/-- A character with one more mark. -/
def MarkedChar.add (c : MarkedChar) (mark : Mark) : MarkedChar := ⟨c.char, c.marks.insert mark⟩

@[simp]
theorem MarkedChar.char_add (c : MarkedChar) (mark : Mark) : (c.add mark).char = c.char := rfl

@[simp]
theorem MarkedChar.marks_add (c : MarkedChar) (mark : Mark) :
    (c.add mark).marks = c.marks.insert mark := rfl

/-- The run of the character at a position. -/
def Run.single (position : Nat) (c : MarkedChar) : Run :=
  ⟨⟨position, position + 1⟩, [c.char], c.marks⟩

namespace MarkedText

/-- A text without marks. -/
def ofString (text : String) : MarkedText := ⟨text.toList.map fun c => ⟨c, ∅⟩⟩

/-- The number of characters. -/
def length (t : MarkedText) : Nat := t.chars.length

/-- Whether there are no characters. -/
def isEmpty (t : MarkedText) : Bool := t.chars.isEmpty

/-- The text without its marks. -/
def text (t : MarkedText) : String := String.ofList (t.chars.map (·.char))

/-- The character at a position, with its marks. -/
def get? (t : MarkedText) (position : Nat) : Option MarkedChar := t.chars[position]?

/-- The text with a mark on every character of a span, which is brought inside the text. -/
def write (t : MarkedText) (span : Span) (mark : Mark) : MarkedText :=
  let span := span.clip t.length
  ⟨t.chars.take span.start ++ (t.chars.extract span.start span.stop).map (·.add mark) ++
    t.chars.drop span.stop⟩

/-- The class names of lexical categories, character by character. -/
def tokenClasses (t : MarkedText) : List (Option String) :=
  t.chars.map fun c => c.marks.tokenMark?.map (·.className)

/-- Some runs, the last one first, with the character at a position behind them. It joins
the last run if that has the same marks. -/
def addChar (runs : List Run) (entry : MarkedChar × Nat) : List Run :=
  let (c, position) := entry
  match runs with
  | [] => [.single position c]
  | run :: earlier =>
      if run.marks = c.marks then
        ⟨⟨run.span.start, position + 1⟩, run.characters ++ [c.char], run.marks⟩ :: earlier
      else .single position c :: run :: earlier

/-- The characters grouped into runs. -/
def runs (t : MarkedText) : List Run := (t.chars.zipIdx.foldl addChar []).reverse

end MarkedText

namespace Run

/-- The text of a run. -/
def text (run : Run) : String := String.ofList run.characters

/-- The mark that stands for a lexical category, if the run has one. -/
def tokenMark? (run : Run) : Option Mark := run.marks.tokenMark?

end Run

end Highlight
