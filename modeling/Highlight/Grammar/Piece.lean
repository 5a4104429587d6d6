import Highlight.Pattern.Places
import Highlight.Token.Basic

/-!
# Pieces

While a text is being tokenized it is kept as a row of pieces, each a span that
is either still plain text or has become a token. A rule carves tokens out of
the pieces of plain text.

Carving in isolation (`carve`) treats every piece of plain text as a text of its
own: the pattern sees its borders as the borders of the text, and what is left
behind a token is again a text of its own.

Carving greedily (`carveGreedy`) searches the whole text from the beginning of
each piece of plain text. What is found must begin in that piece and may end in
a later one; the pieces in between are given up, and of the last one the rest
becomes plain text again.
-/

namespace Highlight

set_option autoImplicit false

/-- A stretch of a text that is plain or has become a token. -/
inductive Piece where
  | plain (span : Span)
  | token (span : Span) (token : Token)

namespace Piece

/-- Where a piece lies. -/
def span : Piece → Span
  | plain span => span
  | .token span _ => span

/-- The token that a piece of a text ends up as. -/
def toToken (text : Array Char) : Piece → Token
  | plain span => .literal (span.text text)
  | .token _ made => made

/-- A piece of plain text, unless there is nothing in it. -/
def plainUnlessEmpty (span : Span) : List Piece :=
  if span.start < span.stop then [plain span] else []

/-- The pieces of a text before any rule: all of it in one piece. -/
def start (text : Array Char) : List Piece := plainUnlessEmpty ⟨0, text.size⟩

/-! ## In isolation -/

/-- Cuts the tokens that a pattern finds out of a span, taken as a text of its
own. -/
def carveSpan (pattern : Pattern) (make : Array Char → Token) (text : Array Char) (span : Span) :
    List Piece :=
  match _found : pattern.find (span.slice text) 0 with
  | none => [plain span]
  | some found =>
      let matched := found.shift span.start
      plainUnlessEmpty ⟨span.start, matched.start⟩ ++
        token matched (make (matched.slice text)) ::
          if matched.stop < span.stop then carveSpan pattern make text ⟨matched.stop, span.stop⟩
          else []
termination_by span.stop - span.start
decreasing_by
  have := Pattern.find_bounds _found
  simp only [Span.shift, matched] at *
  omega

/-- Carves the pieces of plain text one by one. -/
def carve (pattern : Pattern) (make : Array Char → Token) (text : Array Char)
    (pieces : List Piece) : List Piece :=
  pieces.flatMap fun piece =>
    match piece with
    | plain span => carveSpan pattern make text span
    | token span made => [token span made]

/-! ## Greedily -/

/-- The pieces behind a place. The piece the place lies in becomes plain text. -/
def behind (place : Nat) : List Piece → List Piece
  | [] => []
  | piece :: rest =>
      if piece.span.stop < place then behind place rest
      else plainUnlessEmpty ⟨place, piece.span.stop⟩ ++ rest

/-- A measure of the work left in some pieces: their number, and the length of
the first. -/
def work : List Piece → Nat × Nat
  | [] => (0, 0)
  | piece :: rest => (rest.length + 1, piece.span.length)

theorem length_behind_le (place : Nat) (pieces : List Piece) :
    (behind place pieces).length ≤ pieces.length := by
  induction pieces with
  | nil => exact Nat.le_refl _
  | cons piece rest ih =>
    simp only [behind]
    split
    · exact Nat.le_succ_of_le ih
    · simp only [plainUnlessEmpty]
      split <;> simp

/-- Going behind a place inside the first piece of plain text leaves less
work. -/
theorem work_behind_lt {span : Span} {place : Nat} (rest : List Piece)
    (inside : span.start < place) :
    Prod.Lex (· < ·) (· < ·) (work (behind place (plain span :: rest)))
      (work (plain span :: rest)) := by
  have fewer (pieces : List Piece) (shorter : pieces.length ≤ rest.length) :
      Prod.Lex (· < ·) (· < ·) (work pieces) (work (plain span :: rest)) := by
    cases pieces with
    | nil => exact Prod.Lex.left _ _ (Nat.succ_pos _)
    | cons p ps => exact Prod.Lex.left _ _ (Nat.succ_lt_succ shorter)
  by_cases before : span.stop < place
  · simp only [behind, Piece.span, before, if_true]
    exact fewer _ (length_behind_le place rest)
  · simp only [behind, Piece.span, before, if_false, plainUnlessEmpty]
    by_cases left : place < span.stop
    · simp only [left, if_true, List.cons_append, List.nil_append]
      exact Prod.Lex.right _ (by simp only [Piece.span, Span.length]; omega)
    · simp only [left, if_false, List.nil_append]
      exact fewer _ (Nat.le_refl _)

/-- Leaving the first piece leaves less work. -/
theorem work_tail_lt (piece : Piece) (rest : List Piece) :
    Prod.Lex (· < ·) (· < ·) (work rest) (work (piece :: rest)) := by
  cases rest with
  | nil => exact Prod.Lex.left _ _ (Nat.succ_pos _)
  | cons p ps => exact Prod.Lex.left _ _ (Nat.lt_succ_self _)

/-- Carves tokens that begin in pieces of plain text. When nothing is found from
one piece on, nothing can be found from a later one. -/
def carveGreedy (pattern : Pattern) (make : Array Char → Token) (text : Array Char) :
    List Piece → List Piece
  | [] => []
  | token span made :: rest => token span made :: carveGreedy pattern make text rest
  | plain span :: rest =>
      match _found : pattern.find text span.start with
      | none => plain span :: rest
      | some found =>
          if span.stop ≤ found.start then plain span :: carveGreedy pattern make text rest
          else
            plainUnlessEmpty ⟨span.start, found.start⟩ ++
              token found (make (found.slice text)) ::
                carveGreedy pattern make text (behind found.stop (plain span :: rest))
termination_by pieces => work pieces
decreasing_by
  · exact work_tail_lt _ rest
  · exact work_tail_lt _ rest
  · have := Pattern.find_bounds _found
    exact work_behind_lt rest (by omega)

end Piece

end Highlight
