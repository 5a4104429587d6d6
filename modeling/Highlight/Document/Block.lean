import Highlight.Dictionary
import Highlight.Document.Fragment

/-!
# Blocks

A block is a row of fragments, usually the lines of a piece of source code, with
a kind and with data under names. Its text is the texts of the fragments with
line breaks between them.

Every change gives a block a new revision, so that the revision stands for the
row of fragments at that time, also when a copy of the block goes its own way.
A change can be refused. It tells its result together with the block and the
supply that it leaves, whether it was refused or not.
-/

namespace Highlight

set_option autoImplicit false

/-- A row of fragments that belong together. -/
structure Block where
  key : BlockKey
  kind : String
  data : Dictionary String
  fragments : List Fragment
  revision : Revision
deriving DecidableEq

namespace Block

/-! ## Making blocks -/

/-- The kind of blocks that hold source code. -/
def codeKind : String := "code_block"

/-- The name under which a block's data tell the language of its code. -/
def grammarName : String := "syntax"

/-- A block without fragments. -/
def new (kind : String) (supply : Supply) : Block × Supply :=
  (⟨⟨supply.next⟩, kind, ∅, [], ⟨supply.rest.next⟩⟩, supply.rest.rest)

/-- A block with a fragment for each line of a source text. -/
def ofSource (kind source : String) (supply : Supply) : Block × Supply :=
  let (block, supply) := new kind supply
  let (fragments, supply) := Fragment.ofLines (linesOf source) supply
  ({ block with fragments }, supply)

/-- The block with other data under a name and with the same revision. -/
def withData (b : Block) (name value : String) : Block := { b with data := b.data.put name value }

/-- A block of source code in a language. -/
def code (grammar source : String) (supply : Supply) : Block × Supply :=
  let (block, supply) := ofSource codeKind source supply
  (block.withData grammarName grammar, supply)

/-! ## Looking at blocks -/

/-- The first fragment of a key. -/
def fragment? (b : Block) (key : FragmentKey) : Option Fragment :=
  b.fragments.find? (·.key = key)

/-- Where in the row a fragment stands. -/
def indexOf? (b : Block) (key : FragmentKey) : Option Nat :=
  b.fragments.findIdx? (·.key = key)

/-- The length of some fragments together. -/
def lengthOf : List Fragment → Nat
  | [] => 0
  | f :: rest => f.length + lengthOf rest

/-- Where in the block's text the fragment at an index begins. -/
def offsetAt (b : Block) (index : Nat) : Nat := lengthOf (b.fragments.take index) + index

/-- Where in the block's text a fragment begins. -/
def offsetOf? (b : Block) (key : FragmentKey) : Option Nat := (b.indexOf? key).map b.offsetAt

/-- The text of a block. -/
def text (b : Block) : String := joinLines (b.fragments.map Fragment.text)

/-- The length of a block's text, line breaks between fragments left out. -/
def contentLength (b : Block) : Nat := lengthOf b.fragments

/-! ## Changing blocks -/

/-- The block with a new revision. -/
def renew (b : Block) (supply : Supply) : Block × Supply :=
  ({ b with revision := ⟨supply.next⟩ }, supply.rest)

/-- Puts other data under a name. -/
def setData (b : Block) (name value : String) (supply : Supply) : Block × Supply :=
  { b with data := b.data.put name value }.renew supply

/-- Makes a fragment of the given text and puts it into the row. -/
def add (b : Block) (text : String) (row : Fragment → List Fragment) (supply : Supply) :
    Except Fault FragmentKey × Block × Supply :=
  match Fragment.ofText text supply with
  | (.error fault, supply) => (.error fault, b, supply)
  | (.ok fragment, supply) =>
      let b := { b with fragments := row fragment }
      let (b, supply) := b.renew supply
      (.ok fragment.key, b, supply)

/-- Puts a fragment of the given text at the end. -/
def push (b : Block) (text : String) (supply : Supply) :
    Except Fault FragmentKey × Block × Supply :=
  b.add text (b.fragments ++ [·]) supply

/-- Inserts a fragment of the given text at an index, or at the end if the index is
past it. -/
def insert (b : Block) (index : Nat) (text : String) (supply : Supply) :
    Except Fault FragmentKey × Block × Supply :=
  let place := min index b.fragments.length
  b.add text (fun f => b.fragments.take place ++ f :: b.fragments.drop place) supply

/-- Takes out the fragment of a key. -/
def remove (b : Block) (key : FragmentKey) (supply : Supply) :
    Option Fragment × Block × Supply :=
  match b.indexOf? key with
  | none => (none, b, supply)
  | some index =>
      let (b, supply) := b.renew supply
      (b.fragments[index]?, { b with fragments := b.fragments.eraseIdx index }, supply)

/-- The first fragment of a key replaced by one with another line and without
marks. -/
def replaceLine (key : FragmentKey) (line : Line) : List Fragment → List Fragment
  | [] => []
  | f :: rest => if f.key = key then ⟨f.key, line, []⟩ :: rest else f :: replaceLine key line rest

/-- Gives the fragment of a key another text. -/
def setText (b : Block) (key : FragmentKey) (text : String) (supply : Supply) :
    Except Fault Unit × Block × Supply :=
  match Line.ofString? text with
  | none => (.error .lineBreakInFragment, b, supply)
  | some line =>
      match b.indexOf? key with
      | none => (.error (.fragmentNotInBlock key b.key), b, supply)
      | some _ =>
          let b := { b with fragments := replaceLine key line b.fragments }
          let (b, supply) := b.renew supply
          (.ok (), b, supply)

end Block

end Highlight
