import Highlight.Document.Block

/-!
# Settings

What a user can choose about highlighting.
-/

namespace Highlight

set_option autoImplicit false

/-- The grammar for code whose language is not told. -/
def defaultGrammar : String := "javascript"

/-- The first class of all marks for lexical categories. -/
def defaultClassPrefix : String := "token"

/-- The choices of a user, or those made if there are none. -/
structure Settings where
  /-- Whether every line is tokenized by itself. -/
  perLine : Bool := false
  /-- The grammar for blocks that name none. -/
  grammar : String := defaultGrammar
  /-- The kind of blocks that are highlighted. -/
  codeKind : String := Block.codeKind
  /-- The first class of the marks. -/
  classPrefix : String := defaultClassPrefix
  /-- Whether the tokens of a block are kept for its other fragments. -/
  cached : Bool := true
deriving DecidableEq

/-- The settings without any choice. -/
def Settings.standard : Settings where

end Highlight
