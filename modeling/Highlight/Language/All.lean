import Highlight.Grammar.Registry
import Highlight.Language.JavaScript
import Highlight.Language.Markup
import Highlight.Language.Rust
import Highlight.Language.Python
import Highlight.Language.C
import Highlight.Language.Toml

/-!
# The languages that are known from the start
-/

namespace Highlight

set_option autoImplicit false

namespace Language

/-- The grammars of all languages. -/
def grammars : List Grammar :=
  [JavaScript.grammar, Markup.grammar, Rust.grammar, Python.grammar, C.grammar, Toml.grammar]

end Language

/-- The registry of the languages that are known from the start. -/
def Registry.builtin : Registry := .ofList Language.grammars

end Highlight
