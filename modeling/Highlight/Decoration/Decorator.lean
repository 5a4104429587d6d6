import Highlight.Decoration.Bounds
import Highlight.Decoration.Cache
import Highlight.Decoration.Options
import Highlight.Document.Basic

/-!
# Decoration

To decorate a fragment of a block is to put a mark on every character that a
token of some category covers. The fragment's own text is tokenized, or that of
its whole block, whose tokens a cache keeps for the other fragments. Other marks
stay as they are.

A decorator holds a tokenizer, options and the cache, and counts how often it has
called the tokenizer.
-/

namespace Highlight

set_option autoImplicit false

/-- What decorates blocks. -/
structure Decorator where
  tokenizer : Tokenizer
  options : Options
  cache : Cache
  calls : Nat

/-- What a fragment's decoration is made of: the tokens, the bounds of the
fragment among their leaves, and the length that the leaves must have. -/
structure Basis where
  tokens : Option (List Token)
  bounds : Span
  expected : Nat

namespace MarkedText

/-- Marks the part of a leaf inside some bounds. Only a leaf with a label is
marked. -/
def markLeaf (classPrefix : String) (bounds : Span) (t : MarkedText) (leaf : Leaf) : MarkedText :=
  match leaf.label, bounds.within? leaf.span with
  | some label, some span => t.write span (.token classPrefix label)
  | _, _ => t

/-- Marks the parts of some leaves inside some bounds. -/
def markLeaves (t : MarkedText) (classPrefix : String) (bounds : Span) (leaves : List Leaf) :
    MarkedText :=
  leaves.foldl (markLeaf classPrefix bounds) t

end MarkedText

namespace Decorator

/-- A decorator that has not been used. -/
def new (tokenizer : Tokenizer) (options : Options) : Decorator :=
  ⟨tokenizer, options, .empty options.cached, 0⟩

/-- The decorator with its cache used or not from now on. -/
def setCached (d : Decorator) (cached : Bool) : Decorator :=
  { d with options := { d.options with cached }, cache := d.cache.setEnabled cached }

/-- Calls the tokenizer and counts the call. -/
def call (d : Decorator) (grammar text : String) (calls : Nat) : Option (List Token) × Nat :=
  (d.tokenizer text grammar, calls + 1)

/-- Tokenizes what the decoration of the fragment at an index is made of. -/
def basis (d : Decorator) (fragment : Fragment) (block : Block) (index : Nat) :
    Basis × Decorator :=
  let grammar := d.options.grammar block
  match d.options.mode with
  | .plain =>
      let (tokens, calls) := d.call grammar fragment.text d.calls
      (⟨tokens, .whole fragment.length, fragment.length⟩, { d with calls })
  | .joined =>
      let (tokens, cache, calls) := d.cache.fetch block grammar (d.call grammar) d.calls
      (⟨tokens, .inBlock (block.offsetAt index) index fragment.length, block.contentLength⟩,
        { d with cache, calls })

/-- A fragment's characters with the marks that follow from tokens. -/
def mark (options : Options) (fragment : Fragment) (basis : Basis) : Except Fault MarkedText :=
  match basis.tokens with
  | none => .ok fragment.characters
  | some tokens =>
      let leaves := (Walk.start tokens options.mode).leaves
      if consumedBy leaves = basis.expected then
        .ok (fragment.characters.markLeaves options.classPrefix basis.bounds leaves)
      else .error (.lengthMismatch (consumedBy leaves) basis.expected)

/-- Decorates a fragment of a block. A fragment of a block that is not eligible,
or whose grammar is not known, keeps the marks it has. -/
def decorate (d : Decorator) (fragment : Fragment) (block : Block) :
    Except Fault MarkedText × Decorator :=
  match block.indexOf? fragment.key with
  | none => (.error (.fragmentNotInBlock fragment.key block.key), d)
  | some index =>
      if d.options.eligible block then
        let (basis, after) := d.basis fragment block index
        (mark d.options fragment basis, after)
      else (.ok fragment.characters, d)

/-- Decorates some fragments of a block in order, up to the first fault. -/
def decorateFragments (d : Decorator) (block : Block) :
    List Fragment → Except Fault (List MarkedText) × Decorator
  | [] => (.ok [], d)
  | fragment :: rest =>
      match d.decorate fragment block with
      | (.error fault, d) => (.error fault, d)
      | (.ok text, d) =>
          match d.decorateFragments block rest with
          | (.error fault, d) => (.error fault, d)
          | (.ok texts, d) => (.ok (text :: texts), d)

/-- Decorates all fragments of a block. -/
def decorateBlock (d : Decorator) (block : Block) : Except Fault (List MarkedText) × Decorator :=
  d.decorateFragments block block.fragments

/-- Decorates the eligible ones of some blocks in order, up to the first
fault. -/
def decorateBlocks (d : Decorator) :
    List Block → Except Fault (List (BlockKey × List MarkedText)) × Decorator
  | [] => (.ok [], d)
  | block :: rest =>
      if d.options.eligible block then
        match d.decorateBlock block with
        | (.error fault, d) => (.error fault, d)
        | (.ok texts, d) =>
            match d.decorateBlocks rest with
            | (.error fault, d) => (.error fault, d)
            | (.ok more, d) => (.ok ((block.key, texts) :: more), d)
      else d.decorateBlocks rest

/-- Decorates the eligible blocks of a document. -/
def decorateDocument (d : Decorator) (document : Document) :
    Except Fault (List (BlockKey × List MarkedText)) × Decorator :=
  d.decorateBlocks document.blocks

/-- Shows text under a mark, unless the mark belongs to another concern. -/
def render? (d : Decorator) (mark : Mark) (text : String) : Option String :=
  if mark.isToken then some (d.options.renderer.marked mark text) else none

end Decorator

end Highlight
