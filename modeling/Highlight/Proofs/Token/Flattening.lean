import Highlight.Token.Leaf
import Mathlib.Algebra.Ring.Nat

/-!
# A walk flattens a token tree

A token tree can be flattened by recursion on its tokens into segments, the
stretches of text in it from left to right, each with the label that the tokens
around it give it (`Token.segments`). Laying the segments end to end gives leaves
(`layOut`).

A walk comes to the same leaves with rows of tokens to go back to in place of the
recursion (`Walk.leaves_start`). The position at its end is the length of the
text that the tokens cover, counted in the walk's mode (`consumedBy_leaves`).
-/

namespace Highlight

set_option autoImplicit false

/-- A stretch of text in a token tree. -/
structure Segment where
  text : String
  label : Option Label
deriving DecidableEq

mutual

/-- The segments of a token below a path, from left to right. -/
def Token.segments (path : Option Label) : Token → List Segment
  | .literal text => [⟨text, path⟩]
  | .leaf category secondName text => [⟨text, some (.extend path category secondName)⟩]
  | .node category secondName children =>
      Token.segmentsAll (some (.extend path category secondName)) children

/-- The segments of a row of tokens below a path. -/
def Token.segmentsAll (path : Option Label) : List Token → List Segment
  | [] => []
  | t :: rest => t.segments path ++ Token.segmentsAll path rest

end

/-- The leaves of some segments that lie end to end from a position on. -/
def layOut (mode : Mode) : Nat → List Segment → List Leaf
  | _, [] => []
  | position, s :: rest =>
      Walk.leafAt mode position s.text s.label ::
        layOut mode (position + mode.measure s.text) rest

/-! ## Walks -/

namespace Walk

/-- The segments in the rows that a walk has not finished. -/
def segmentsIn (frames : List Frame) : List Segment :=
  frames.flatMap fun f => Token.segmentsAll f.label f.tokens

/-- The next leaf is the one of the first segment, and the others are left. -/
theorem nextIn_eq (mode : Mode) (position : Nat) (frames : List Frame) :
    (nextIn mode position frames).map (fun found => (found.1, segmentsIn found.2)) =
      match segmentsIn frames with
      | [] => none
      | s :: rest => some (leafAt mode position s.text s.label, rest) := by
  fun_induction nextIn mode position frames with
  | case1 => rfl
  | case2 label outer ih => exact ih
  | case3 text tokens label outer => rfl
  | case4 category secondName text tokens label outer => rfl
  | case5 category secondName children tokens label outer ih =>
      rw [ih]
      simp only [segmentsIn, List.flatMap_cons, Token.segmentsAll, Token.segments,
        List.append_assoc]

/-- A walk visits the leaves of its segments, laid out from its position on. -/
theorem leaves_eq (w : Walk) : w.leaves = layOut w.mode w.position (segmentsIn w.frames) := by
  fun_induction leaves w with
  | case1 w found =>
      have next := nextIn_eq w.mode w.position w.frames
      rw [found] at next
      cases segments : segmentsIn w.frames with
      | nil => rfl
      | cons s rest => rw [segments] at next; cases next
  | case2 w leaf frames found ih =>
      have next := nextIn_eq w.mode w.position w.frames
      rw [found] at next
      cases segments : segmentsIn w.frames with
      | nil => rw [segments] at next; cases next
      | cons s rest =>
          rw [segments] at next
          simp only [Option.map_some, Option.some.injEq, Prod.mk.injEq] at next
          obtain ⟨first, others⟩ := next
          rw [ih, others, first]
          rfl

/-- **A walk through a row of tokens visits the leaves of its segments.** -/
theorem leaves_start (tokens : List Token) (mode : Mode) :
    (start tokens mode).leaves = layOut mode 0 (Token.segmentsAll none tokens) := by
  rw [leaves_eq]
  simp only [start, segmentsIn, List.flatMap_cons, List.flatMap_nil, List.append_nil]

end Walk

/-! ## Lengths -/

namespace Mode

/-- Whether a character takes a position. -/
def counts (mode : Mode) (c : Char) : Bool :=
  match mode with
  | plain => true
  | joined => c != lineBreak

theorem measure_eq (mode : Mode) (text : String) :
    mode.measure text = (text.toList.filter mode.counts).length := by
  cases mode with
  | plain =>
      have all : text.toList.filter plain.counts = text.toList :=
        List.filter_eq_self.2 fun _ _ => rfl
      rw [all]
      rfl
  | joined => rfl

theorem measure_append (mode : Mode) (s t : String) :
    mode.measure (s ++ t) = mode.measure s + mode.measure t := by
  simp only [measure_eq, String.toList_append, List.filter_append, List.length_append]

end Mode

/-- The length of some segments together. -/
def measureAll (mode : Mode) (segments : List Segment) : Nat :=
  (segments.map fun s => mode.measure s.text).sum

theorem measureAll_append (mode : Mode) (first second : List Segment) :
    measureAll mode (first ++ second) = measureAll mode first + measureAll mode second := by
  simp only [measureAll, List.map_append, List.sum_append]

mutual

/-- Flattening a token keeps the length of its text. -/
theorem Token.measureAll_segments (mode : Mode) (path : Option Label) :
    ∀ t : Token, measureAll mode (t.segments path) = mode.measure t.text
  | .literal _ => rfl
  | .leaf _ _ _ => rfl
  | .node _ _ children => Token.measureAll_segmentsAll mode _ children

/-- Flattening a row of tokens keeps the length of its text. -/
theorem Token.measureAll_segmentsAll (mode : Mode) (path : Option Label) :
    ∀ ts : List Token, measureAll mode (Token.segmentsAll path ts) = mode.measure (Token.textAll ts)
  | [] => by cases mode <;> rfl
  | t :: rest => by
      rw [Token.segmentsAll, measureAll_append, Token.measureAll_segments mode path t,
        Token.measureAll_segmentsAll mode path rest, Token.textAll, Mode.measure_append]

end

/-- The leaves laid out from a position end behind all segments. -/
theorem stop_getLast?_layOut (mode : Mode) (position : Nat) (segments : List Segment) :
    (layOut mode position segments).getLast?.elim position (·.span.stop) =
      position + measureAll mode segments := by
  induction segments generalizing position with
  | nil => rfl
  | cons s rest ih =>
      have later := ih (position + mode.measure s.text)
      simp only [layOut, List.getLast?_cons, measureAll, List.map_cons, List.sum_cons]
      rw [← Nat.add_assoc]
      refine Eq.trans ?_ later
      cases (layOut mode (position + mode.measure s.text) rest).getLast? with
      | none => rfl
      | some leaf => rfl

/-- **A walk ends behind the text that the tokens cover**, as far as it
counts. -/
theorem consumedBy_leaves (tokens : List Token) (mode : Mode) :
    consumedBy (Walk.start tokens mode).leaves = mode.measure (Token.textAll tokens) := by
  have last := stop_getLast?_layOut mode 0 (Token.segmentsAll none tokens)
  rw [Token.measureAll_segmentsAll, Nat.zero_add] at last
  rw [Walk.leaves_start, consumedBy, ← last]
  cases (layOut mode 0 (Token.segmentsAll none tokens)).getLast? with
  | none => rfl
  | some leaf => rfl

end Highlight
