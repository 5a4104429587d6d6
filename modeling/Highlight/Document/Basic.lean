import Highlight.Document.Block

/-!
# Documents

A document is a row of blocks.
-/

namespace Highlight

set_option autoImplicit false

/-- A row of blocks. -/
structure Document where
  blocks : List Block
deriving DecidableEq

namespace Document

/-- The document without blocks. -/
def empty : Document := ⟨[]⟩

/-- The document with one more block at the end. -/
def push (d : Document) (block : Block) : Document := ⟨d.blocks ++ [block]⟩

/-- The first block of a key. -/
def block? (d : Document) (key : BlockKey) : Option Block := d.blocks.find? (·.key = key)

/-- Some blocks, with a block put in place of the first one of its key. -/
def replaceIn (block : Block) : List Block → List Block
  | [] => []
  | b :: rest => if b.key = block.key then block :: rest else b :: replaceIn block rest

/-- The document with a new state of one of its blocks. -/
def replace (d : Document) (block : Block) : Document := ⟨replaceIn block d.blocks⟩

end Document

end Highlight
