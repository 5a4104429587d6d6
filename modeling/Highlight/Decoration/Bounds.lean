import Highlight.Text.Span

/-!
# Bounds of fragments

Where the lines of a block are tokenized together, the positions of its leaves
run through the contents of all its fragments, without the line breaks between
them. A fragment takes up a stretch of these positions, its bounds, and of a
leaf it gets what lies inside its bounds, counted from their beginning.
-/

namespace Highlight

set_option autoImplicit false

namespace Span

/-- The bounds of a text that was tokenized by itself. -/
def whole (length : Nat) : Span := ⟨0, length⟩

/-- The bounds of a fragment that begins at an offset of its block's text, with
a number of line breaks before it. -/
def inBlock (offset breaks length : Nat) : Span := ⟨offset - breaks, offset - breaks + length⟩

/-- The part of a span inside some bounds, counted from their beginning, unless
it is empty. -/
def within? (bounds span : Span) : Option Span :=
  let start := max span.start bounds.start
  let stop := min span.stop bounds.stop
  if start < stop then some ⟨start - bounds.start, stop - bounds.start⟩ else none

end Span

end Highlight
