import Highlight.Text.Parts
import Highlight.Text.Span

/-!
# Lines

A line is a text without line breaks. A source text is cut into lines at its
line breaks, so that it has one line more than line breaks; a carriage return at
the end of a line belongs to the break and is dropped.
-/

namespace Highlight

set_option autoImplicit false

/-- The character between two lines. -/
def lineBreak : Char := '\n'

/-- A text without line breaks. -/
structure Line where
  text : String
  unbroken : lineBreak ∉ text.toList
deriving DecidableEq

namespace Line

/-- A text as a line, unless there is a line break in it. -/
def ofString? (text : String) : Option Line :=
  if unbroken : lineBreak ∉ text.toList then some ⟨text, unbroken⟩ else none

/-- Some characters as a line. -/
def ofChars (chars : List Char) (unbroken : lineBreak ∉ chars) : Line :=
  ⟨String.ofList chars, by rwa [String.toList_ofList]⟩

/-- The number of characters. -/
def length (line : Line) : Nat := line.text.length

theorem ofString?_eq_none_iff {text : String} :
    ofString? text = none ↔ lineBreak ∈ text.toList := by
  simp [ofString?]

end Line

/-! ## Cutting and joining -/

/-- Some characters without a carriage return at their end. -/
def dropReturn (line : List Char) : List Char :=
  if line.getLast? = some '\r' then line.dropLast else line

theorem lineBreak_notMem_dropReturn {line : List Char} (unbroken : lineBreak ∉ line) :
    lineBreak ∉ dropReturn line := by
  simp only [dropReturn]
  split
  · exact fun member => unbroken ((List.dropLast_sublist line).mem member)
  · exact unbroken

/-- The lines of a source text. -/
def linesOf (source : String) : List Line :=
  (parts lineBreak source.toList).pmap (fun line => Line.ofChars (dropReturn line))
    fun _ member => lineBreak_notMem_dropReturn (separator_notMem_of_mem_parts member)

/-- Some texts with a line break between each and the next. -/
def joinLines : List String → String
  | [] => ""
  | [line] => line
  | line :: rest => line ++ lineBreak.toString ++ joinLines rest

end Highlight
