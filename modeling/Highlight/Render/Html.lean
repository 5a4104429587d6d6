import Highlight.Render.Basic

/-!
# HTML

In HTML a run of a lexical category is a span element of the mark's class. The
five characters that have a meaning in markup are written as references, both
in texts and in class names.
-/

namespace Highlight

set_option autoImplicit false

namespace Html

/-- A character as HTML. -/
def escapeChar (c : Char) : List Char :=
  if c = '&' then "&amp;".toList
  else if c = '<' then "&lt;".toList
  else if c = '>' then "&gt;".toList
  else if c = '"' then "&quot;".toList
  else if c = '\'' then "&#39;".toList
  else [c]

/-- A text as HTML. -/
def escape (text : String) : String := String.ofList (text.toList.flatMap escapeChar)

/-- The tag that begins a span of a class. -/
def openSpan (className : String) : String := "<span class=\"" ++ escape className ++ "\">"

/-- The tag that ends a span. -/
def closeSpan : String := "</span>"

end Html

/-- Renders HTML. -/
def Renderer.html : Renderer where
  marked mark text := Html.openSpan mark.className ++ Html.escape text ++ Html.closeSpan
  plain := Html.escape

end Highlight
