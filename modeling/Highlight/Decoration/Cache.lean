import Highlight.Document.Block
import Highlight.Grammar.Registry

/-!
# The cache of a block's tokens

A cache keeps the tokens of the block that was asked for last, for as long as the
same state of the block is asked for with the same grammar. That a grammar is
not known is kept as well.
-/

namespace Highlight

set_option autoImplicit false

/-- The tokens of a state of a block, by some grammar. -/
structure CacheEntry where
  block : BlockKey
  revision : Revision
  grammar : String
  tokens : Option (List Token)
deriving DecidableEq

/-- Room for one entry, which is used or not. -/
structure Cache where
  enabled : Bool
  entry : Option CacheEntry
deriving DecidableEq

/-- Whether an entry is for a state of a block and a grammar. -/
def CacheEntry.isFor (e : CacheEntry) (block : Block) (grammar : String) : Bool :=
  e.block = block.key ∧ e.revision = block.revision ∧ e.grammar = grammar

namespace Cache

/-- A cache without an entry. -/
def empty (enabled : Bool) : Cache := ⟨enabled, none⟩

/-- The cache used or not from now on. What is not used has no entry. -/
def setEnabled (c : Cache) (enabled : Bool) : Cache :=
  ⟨enabled, if enabled then c.entry else none⟩

/-- The entry for a state of a block and a grammar. -/
def entryFor? (c : Cache) (block : Block) (grammar : String) : Option CacheEntry :=
  c.entry.filter (·.isFor block grammar)

/-- The tokens of a block's text, the cache afterwards and the state of the tokenizer
afterwards. The tokenizer is called unless the cache has the tokens. -/
def fetch {σ : Type} (c : Cache) (block : Block) (grammar : String)
    (tokenize : String → σ → Option (List Token) × σ) (state : σ) :
    Option (List Token) × Cache × σ :=
  if c.enabled then
    match c.entryFor? block grammar with
    | some entry => (entry.tokens, c, state)
    | none =>
        let (tokens, state) := tokenize block.text state
        (tokens, ⟨true, some ⟨block.key, block.revision, grammar, tokens⟩⟩, state)
  else
    let (tokens, state) := tokenize block.text state
    (tokens, c, state)

end Cache

end Highlight
