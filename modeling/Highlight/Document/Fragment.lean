import Highlight.Document.Key
import Highlight.Fault
import Highlight.Mark.Text
import Highlight.Text.Line

/-!
# Fragments

A fragment is a line of a block with the marks that other concerns than
highlighting have put on it.
-/

namespace Highlight

set_option autoImplicit false

/-- A line of a block, with marks on stretches of it. -/
structure Fragment where
  key : FragmentKey
  line : Line
  marks : List (Span × Mark)
deriving DecidableEq

namespace Fragment

/-- The text of a fragment. -/
def text (f : Fragment) : String := f.line.text

/-- The number of characters. -/
def length (f : Fragment) : Nat := f.line.length

/-- A fragment without marks. -/
def ofLine (line : Line) (supply : Supply) : Fragment × Supply :=
  (⟨⟨supply.next⟩, line, []⟩, supply.rest)

/-- A fragment of the given text, which must be a line. Another text takes no number. -/
def ofText (text : String) (supply : Supply) : Except Fault Fragment × Supply :=
  match Line.ofString? text with
  | none => (.error .lineBreakInFragment, supply)
  | some line =>
      let (fragment, supply) := ofLine line supply
      (.ok fragment, supply)

/-- A fragment for each of some lines. -/
def ofLines : List Line → Supply → List Fragment × Supply
  | [], supply => ([], supply)
  | line :: rest, supply =>
      let (fragment, supply) := ofLine line supply
      let (fragments, supply) := ofLines rest supply
      (fragment :: fragments, supply)

/-- The fragment with one more mark, on the part of a span inside the text. -/
def addMark (f : Fragment) (span : Span) (mark : Mark) : Fragment :=
  { f with marks := f.marks ++ [(span.clip f.length, mark)] }

/-- The characters with the fragment's own marks on them. -/
def characters (f : Fragment) : MarkedText :=
  f.marks.foldl (fun t m => t.write m.1 m.2) (.ofString f.text)

end Fragment

end Highlight
