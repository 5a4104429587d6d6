import Highlight.Document.Block
import Highlight.Render.Html
import Highlight.Settings.Basic
import Highlight.Token.Leaf

/-!
# Options of decoration

What a host decides about the decoration of its documents.
-/

namespace Highlight

set_option autoImplicit false

/-- How blocks are decorated. -/
structure Options where
  /-- Whether the fragments of a block are decorated at all. -/
  eligible : Block → Bool
  /-- The grammar by which a block is tokenized. -/
  grammar : Block → String
  /-- How decorated text is shown. -/
  renderer : Renderer
  /-- Whether lines are tokenized by themselves or joined. -/
  mode : Mode
  /-- The first class of the marks. -/
  classPrefix : String
  /-- Whether the tokens of a block are kept for its other fragments. -/
  cached : Bool

/-- The mode in which lines are tokenized by themselves, or the other one. -/
def Mode.perLine (alone : Bool) : Mode := if alone then .plain else .joined

namespace Options

/-- The options that follow from settings. -/
def ofSettings (s : Settings) : Options where
  eligible block := block.kind == s.codeKind
  grammar block := (block.data.get? Block.grammarName).getD s.grammar
  renderer := .html
  mode := .perLine s.perLine
  classPrefix := s.classPrefix
  cached := s.cached

/-- The options if nothing else is chosen. -/
def standard : Options := ofSettings .standard

end Options

end Highlight
