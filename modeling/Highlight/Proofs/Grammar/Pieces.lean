import Highlight.Grammar.Piece
import Mathlib.Data.List.Chain

/-!
# Carving keeps pieces end to end

The pieces of a text lie end to end, and none of them is empty (`Piece.Tiles`).
Carving keeps it so, in isolation (`Tiles.carve`) and greedily
(`Tiles.carveGreedy`), where giving up the pieces behind a place leaves pieces from
that place on (`Tiles.behind`). What is known of the tokens in the pieces stays
known if it holds of each token that is made.

Carving in isolation leaves a token between any two pieces of plain text
(`isChain_carve`). Carving greedily does not: of a piece that was given up in part,
the rest becomes plain text, whatever comes next.
-/

namespace Highlight

set_option autoImplicit false

namespace Piece

/-- Something holds of a piece's token and the span it lies in, if the piece is a
token. -/
def Made (made : Span → Token → Prop) : Piece → Prop
  | plain _ => True
  | token span t => made span t

/-- Pieces lie end to end from one place to another, none is empty, and something
holds of each token and the span it lies in. -/
inductive Tiles (made : Span → Token → Prop) : Nat → List Piece → Nat → Prop where
  | nil (place : Nat) : Tiles made place [] place
  | cons {start stop : Nat} {piece : Piece} {rest : List Piece} (begins : piece.span.start = start)
      (proper : start < piece.span.stop) (isMade : piece.Made made)
      (later : Tiles made piece.span.stop rest stop) : Tiles made start (piece :: rest) stop

section

variable {made : Span → Token → Prop} {start middle stop : Nat} {pieces : List Piece}

theorem Tiles.le (tiles : Tiles made start pieces stop) : start ≤ stop := by
  induction tiles with
  | nil place => exact Nat.le_refl place
  | cons begins proper isMade later ih => omega

/-- The first piece begins where the row does, and the others begin where it ends. -/
theorem Tiles.uncons {piece : Piece} {rest : List Piece}
    (tiles : Tiles made start (piece :: rest) stop) :
    piece.span.start = start ∧ start < piece.span.stop ∧ Tiles made piece.span.stop rest stop := by
  cases tiles with
  | cons begins proper isMade later => exact ⟨begins, proper, later⟩

theorem Tiles.append {others : List Piece} (first : Tiles made start pieces middle)
    (second : Tiles made middle others stop) : Tiles made start (pieces ++ others) stop := by
  induction first with
  | nil place => exact second
  | cons begins proper isMade later ih => exact .cons begins proper isMade (ih second)

theorem tiles_plainUnlessEmpty (ordered : start ≤ stop) :
    Tiles made start (plainUnlessEmpty ⟨start, stop⟩) stop := by
  simp only [plainUnlessEmpty]
  split
  · next proper => exact .cons rfl proper trivial (.nil stop)
  · next empty =>
    have equal : start = stop := Nat.le_antisymm ordered (Nat.not_lt.1 empty)
    exact equal ▸ .nil start

/-- A text in one piece. -/
theorem tiles_start (text : Array Char) : Tiles made 0 (Piece.start text) text.size :=
  tiles_plainUnlessEmpty (Nat.zero_le _)

/-! ## In isolation -/

section Isolated

variable {pattern : Pattern} {make : Array Char → Token} {text : Array Char}
  (makes : ∀ region found : Span, region.stop ≤ text.size →
    pattern.find (region.slice text) 0 = some found →
      made (found.shift region.start) (make ((found.shift region.start).slice text)))
include makes

/-- A span carved in isolation becomes pieces that lie end to end in it. -/
theorem tiles_carveSpan (span : Span) (proper : span.start < span.stop)
    (inside : span.stop ≤ text.size) :
    Tiles made span.start (carveSpan pattern make text span) span.stop := by
  fun_induction carveSpan pattern make text span with
  | case1 span nothing => exact .cons rfl proper trivial (.nil _)
  | case2 span found isFound matched ih =>
      obtain ⟨_, holds, within⟩ := Pattern.find_bounds isFound
      have size : (span.slice text).size = span.stop - span.start := by
        rw [Span.slice, Array.size_extract, Nat.min_eq_left inside]
      have ends : matched.stop ≤ span.stop := by
        simp only [matched, Span.shift]
        omega
      refine (tiles_plainUnlessEmpty (Nat.le_add_right _ _)).append ?_
      refine .cons rfl (Nat.add_lt_add_left holds _) (makes span found inside isFound) ?_
      split
      · next more => exact ih more more inside
      · next done => exact Nat.le_antisymm ends (Nat.not_lt.1 done) ▸ .nil matched.stop

/-- **Carving in isolation keeps pieces end to end.** -/
theorem Tiles.carve (tiles : Tiles made start pieces stop) (inside : stop ≤ text.size) :
    Tiles made start (carve pattern make text pieces) stop := by
  induction tiles with
  | nil place => exact .nil place
  | @cons start stop piece rest begins proper isMade later ih =>
      cases piece with
      | plain span =>
          have within : span.stop ≤ text.size := Nat.le_trans later.le inside
          subst begins
          exact (tiles_carveSpan makes span proper within).append (ih inside)
      | token span t => exact .cons begins proper isMade (ih inside)

end Isolated

/-! ## Greedily -/

/-- Giving up what lies before a place leaves pieces from that place on. -/
theorem Tiles.behind {place : Nat} (tiles : Tiles made start pieces stop) (low : start ≤ place)
    (high : place ≤ stop) : Tiles made place (behind place pieces) stop := by
  induction tiles with
  | nil end' => exact Nat.le_antisymm low high ▸ .nil end'
  | @cons start stop piece rest begins proper isMade later ih =>
      by_cases before : piece.span.stop < place
      · rw [Piece.behind, if_pos before]
        exact ih (Nat.le_of_lt before) high
      · rw [Piece.behind, if_neg before]
        exact (tiles_plainUnlessEmpty (Nat.not_lt.1 before)).append later

/-- **Carving greedily keeps pieces end to end** up to the end of the text. -/
theorem Tiles.carveGreedy {pattern : Pattern} {make : Array Char → Token} {text : Array Char}
    (makes : ∀ place found, pattern.find text place = some found →
      made found (make (found.slice text)))
    (tiles : Tiles made start pieces text.size) :
    Tiles made start (carveGreedy pattern make text pieces) text.size := by
  fun_induction Piece.carveGreedy pattern make text pieces generalizing start with
  | case1 => exact tiles
  | case2 span t rest ih =>
      cases tiles with
      | cons begins proper isMade later => exact .cons begins proper isMade (ih later)
  | case3 span rest nothing => exact tiles
  | case4 span rest found isFound behind' ih =>
      cases tiles with
      | cons begins proper isMade later => exact .cons begins proper isMade (ih later)
  | case5 span rest found isFound here ih =>
      obtain ⟨low, holds, within⟩ := Pattern.find_bounds isFound
      obtain rfl : span.start = start := tiles.uncons.1
      refine (tiles_plainUnlessEmpty low).append ?_
      exact .cons rfl holds (makes span.start found isFound)
        (ih (tiles.behind (Nat.le_trans low (Nat.le_of_lt holds)) within))

end

/-! ## Plain text side by side -/

/-- Whether a piece has become a token. -/
def isToken : Piece → Bool
  | plain _ => false
  | .token _ _ => true

/-- At least one of two pieces has become a token. -/
def Apart (p q : Piece) : Prop := p.isToken = true ∨ q.isToken = true

section Apart

variable (pattern : Pattern) (make : Array Char → Token) (text : Array Char)

/-- A row of pieces behind a token. -/
theorem isChain_token_cons {span : Span} {t : Token} {pieces : List Piece}
    (chain : pieces.IsChain Apart) : (token span t :: pieces).IsChain Apart :=
  chain.cons fun _ _ => Or.inl rfl

theorem isChain_carveSpan (span : Span) : (carveSpan pattern make text span).IsChain Apart := by
  have before : ∀ (span matched : Span) (t : Token) (pieces : List Piece),
      pieces.IsChain Apart →
        (plainUnlessEmpty span ++ token matched t :: pieces).IsChain Apart := by
    intro span matched t pieces chain
    have behind : (token matched t :: pieces).IsChain Apart := isChain_token_cons chain
    simp only [plainUnlessEmpty]
    split
    · exact List.IsChain.cons_cons (Or.inr rfl) behind
    · exact behind
  fun_induction carveSpan pattern make text span with
  | case1 span nothing => exact .singleton _
  | case2 span found isFound matched ih =>
      refine before _ _ _ _ ?_
      split
      · next more => exact ih more
      · exact .nil

/-- **Carving in isolation keeps a token between pieces of plain text.** -/
theorem isChain_carve {pieces : List Piece} (chain : pieces.IsChain Apart) :
    (carve pattern make text pieces).IsChain Apart := by
  induction pieces with
  | nil => exact .nil
  | cons p rest ih =>
      have later := ih chain.tail
      cases p with
      | token span t => exact isChain_token_cons later
      | plain span =>
          refine List.IsChain.append (isChain_carveSpan pattern make text span) later ?_
          intro p _ q first
          cases rest with
          | nil => cases first
          | cons next others =>
              cases next with
              | token span t => cases first; exact Or.inr rfl
              | plain span' =>
                  rcases (List.isChain_cons_cons.1 chain).1 with isToken | isToken
                  · cases isToken
                  · cases isToken

end Apart

end Piece

end Highlight
