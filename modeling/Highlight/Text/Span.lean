/-!
# Spans of a text

A text is an array of characters and a position in it counts characters, so a
combining mark, a letter and an emoji each take one position. A span is a
half-open stretch of positions. Everything that points into a text, from a
pattern's match to the range of a mark, is a span in this sense.
-/

namespace Highlight

set_option autoImplicit false

/-- The positions from `start` up to, and without, `stop`. -/
structure Span where
  start : Nat
  stop : Nat
deriving DecidableEq, Inhabited

namespace Span

/-- How many positions a span holds. -/
def length (s : Span) : Nat := s.stop - s.start

/-- A span without positions, an inverted one included. -/
def isEmpty (s : Span) : Bool := decide (s.stop ≤ s.start)

/-- Every position moved to the right. -/
def shift (s : Span) (offset : Nat) : Span := ⟨offset + s.start, offset + s.stop⟩

/-- A span with both ends brought inside a text of the given length. -/
def clip (s : Span) (size : Nat) : Span :=
  let stop := min s.stop size
  ⟨min s.start stop, stop⟩

theorem isEmpty_iff (s : Span) : s.isEmpty = true ↔ s.stop ≤ s.start := by
  simp only [isEmpty, decide_eq_true_eq]

theorem isEmpty_eq_false_iff (s : Span) : s.isEmpty = false ↔ s.start < s.stop := by
  simp only [isEmpty, decide_eq_false_iff_not, Nat.not_le]

end Span

/-- The characters of a string, indexed by position. -/
def charactersOf (text : String) : Array Char := text.toList.toArray

/-- The string of an array of characters. -/
def stringOf (characters : Array Char) : String := String.ofList characters.toList

/-- The part of a text that a span covers. -/
def Span.slice (s : Span) (text : Array Char) : Array Char := text.extract s.start s.stop

/-- The part of a text that a span covers, as a string. -/
def Span.text (s : Span) (text : Array Char) : String := stringOf (s.slice text)

@[simp]
theorem charactersOf_stringOf (characters : Array Char) :
    charactersOf (stringOf characters) = characters := by
  simp [charactersOf, stringOf]

@[simp]
theorem stringOf_charactersOf (text : String) : stringOf (charactersOf text) = text := by
  simp [charactersOf, stringOf]

end Highlight
