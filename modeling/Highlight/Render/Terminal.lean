import Highlight.Render.Basic
import Highlight.Render.Theme

/-!
# Terminal output

In a terminal a run of a lexical category is shown in the style that a theme has
for it, and as it comes if there is no such style.
-/

namespace Highlight

set_option autoImplicit false

/-- Renders for a terminal in the styles of a theme. -/
def Renderer.terminal (theme : Theme) : Renderer where
  marked mark text :=
    match theme.styleFor? mark with
    | some style => style.apply text
    | none => text

end Highlight
