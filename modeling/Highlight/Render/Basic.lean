import Highlight.Mark.Text

/-!
# Rendering

A renderer turns the text of a run into output: in one way if the run belongs to
a lexical category, and in another if it does not. Marked text is rendered run
by run.
-/

namespace Highlight

set_option autoImplicit false

/-- How runs become output. -/
structure Renderer where
  /-- The output for text under a mark. -/
  marked : Mark → String → String
  /-- The output for text without a lexical category. -/
  plain : String → String := id

namespace Renderer

/-- The output for a run. -/
def run (r : Renderer) (run : Run) : String :=
  match run.tokenMark? with
  | some mark => r.marked mark run.text
  | none => r.plain run.text

/-- The output for some runs. -/
def runs (r : Renderer) : List Run → String
  | [] => ""
  | run :: rest => r.run run ++ r.runs rest

/-- The output for marked text. -/
def text (r : Renderer) (text : MarkedText) : String := r.runs text.runs

end Renderer

end Highlight
