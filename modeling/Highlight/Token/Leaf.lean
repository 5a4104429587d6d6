import Highlight.Text.Line
import Highlight.Token.Basic
import Highlight.Token.Label

/-!
# Leaves of token trees

The leaves of a row of tokens are the pieces of text in it, in order. Each has a
label, unless it is plain text outside any category, and a place in the text
that was tokenized, counted in one of two ways. Where every line was tokenized
by itself all characters count. Where the lines of a block were joined, the
line breaks between them belong to no line and do not count, so that positions
are positions in the lines' own characters.

A walk visits the leaves one after the other. It holds the rows it has entered
and not finished, the innermost first, and the position it has come to.
-/

namespace Highlight

set_option autoImplicit false

/-- How lengths of leaves are counted. -/
inductive Mode where
  | plain
  | joined
deriving DecidableEq

/-- How many positions a piece of text takes. -/
def Mode.measure (mode : Mode) (text : String) : Nat :=
  match mode with
  | plain => text.length
  | joined => (text.toList.filter (· != lineBreak)).length

/-- A piece of text in a token tree: where it is, and its lexical path, which
only text outside any category lacks. -/
structure Leaf where
  span : Span
  label : Option Label
deriving DecidableEq

/-- A row of tokens that a walk has entered, and the path to it. -/
structure Frame where
  tokens : List Token
  label : Option Label

mutual

/-- A bound on the steps of a walk through a token. -/
def Token.steps : Token → Nat
  | .literal _ => 1
  | .leaf _ _ _ => 1
  | .node _ _ children => 2 + Token.stepsAll children

/-- A bound on the steps of a walk through a row of tokens. -/
def Token.stepsAll : List Token → Nat
  | [] => 0
  | t :: rest => t.steps + Token.stepsAll rest

end

/-- A walk through a token tree. -/
structure Walk where
  mode : Mode
  position : Nat
  frames : List Frame

namespace Walk

/-- The walk at the beginning of a row of tokens. -/
def start (tokens : List Token) (mode : Mode) : Walk := ⟨mode, 0, [⟨tokens, none⟩]⟩

/-- A bound on the steps left in some rows. -/
def stepsLeft : List Frame → Nat
  | [] => 0
  | f :: rest => 1 + Token.stepsAll f.tokens + stepsLeft rest

/-- The leaf for a piece of text at a position. -/
def leafAt (mode : Mode) (position : Nat) (text : String) (label : Option Label) : Leaf :=
  ⟨⟨position, position + mode.measure text⟩, label⟩

/-- The next leaf in some rows, and the rows left after it. -/
def nextIn (mode : Mode) (position : Nat) : List Frame → Option (Leaf × List Frame)
  | [] => none
  | ⟨[], _⟩ :: outer => nextIn mode position outer
  | ⟨.literal text :: rest, label⟩ :: outer =>
      some (leafAt mode position text label, ⟨rest, label⟩ :: outer)
  | ⟨.leaf category secondName text :: rest, label⟩ :: outer =>
      some (leafAt mode position text (some (.extend label category secondName)),
        ⟨rest, label⟩ :: outer)
  | ⟨.node category secondName children :: rest, label⟩ :: outer =>
      nextIn mode position
        (⟨children, some (.extend label category secondName)⟩ :: ⟨rest, label⟩ :: outer)
termination_by frames => stepsLeft frames
decreasing_by
  all_goals simp only [stepsLeft, Token.stepsAll, Token.steps]
  all_goals omega

/-- A leaf uses up steps of the rows it was found in. -/
theorem stepsLeft_nextIn {mode : Mode} {position : Nat} {frames rest : List Frame} {leaf : Leaf}
    (found : nextIn mode position frames = some (leaf, rest)) :
    stepsLeft rest < stepsLeft frames := by
  fun_induction nextIn mode position frames with
  | case1 => simp at found
  | case2 label outer ih =>
      have := ih found
      simp only [stepsLeft, Token.stepsAll]
      omega
  | case3 text tokens label outer =>
      simp only [Option.some.injEq, Prod.mk.injEq] at found
      rw [← found.2]
      simp only [stepsLeft, Token.stepsAll, Token.steps]
      omega
  | case4 category secondName text tokens label outer =>
      simp only [Option.some.injEq, Prod.mk.injEq] at found
      rw [← found.2]
      simp only [stepsLeft, Token.stepsAll, Token.steps]
      omega
  | case5 category secondName children tokens label outer ih =>
      have := ih found
      simp only [stepsLeft, Token.stepsAll, Token.steps] at this ⊢
      omega

/-- The next leaf, and the walk after it. -/
def next (w : Walk) : Option (Leaf × Walk) :=
  match nextIn w.mode w.position w.frames with
  | none => none
  | some (leaf, frames) => some (leaf, ⟨w.mode, leaf.span.stop, frames⟩)

/-- All leaves that a walk still visits. -/
def leaves (w : Walk) : List Leaf :=
  match _found : nextIn w.mode w.position w.frames with
  | none => []
  | some (leaf, frames) => leaf :: leaves ⟨w.mode, leaf.span.stop, frames⟩
termination_by stepsLeft w.frames
decreasing_by exact stepsLeft_nextIn _found

end Walk

/-- The position a walk has come to after some leaves. -/
def consumedBy (leaves : List Leaf) : Nat :=
  match leaves.getLast? with
  | none => 0
  | some leaf => leaf.span.stop

end Highlight
