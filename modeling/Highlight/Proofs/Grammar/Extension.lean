import Highlight.Proofs.Grammar.Partition

/-!
# What one more rule changes

A rule at the end of a grammar is applied to the pieces that the rules before it have left.
The tokens of two tokenizations are compared together with the spans that they cover
(`Token.placed`), as these tell where a token stands.

If the rule is not greedy, it carves pieces of plain text only. Every token of a category
stays where it is, and each new one was made by the rule and lies in a literal.

If the rule is greedy, it may take over tokens, but only such as begin behind the beginning
of a match. So a token of a category stays where it is, or the rule has made a token that
begins before it and reaches into it (`Piece.Tiles.kept_or_overrun`): what lies behind a
match is carved on, and no token behind it is touched by that match
(`Piece.Tiles.mem_behind`).
-/

namespace Highlight

set_option autoImplicit false

/-- A token and the span of a text that it covers. -/
structure PlacedToken where
  span : Span
  token : Token

namespace PlacedToken

/-- The token belongs to a lexical category. -/
def Typed (p : PlacedToken) : Prop := p.token.category? ≠ none

/-- One token lies in another. -/
def LiesIn (p q : PlacedToken) : Prop :=
  q.span.start ≤ p.span.start ∧ p.span.stop ≤ q.span.stop

/-- One token begins before another and reaches into it. -/
def Overruns (q p : PlacedToken) : Prop :=
  q.span.start < p.span.start ∧ p.span.start < q.span.stop

/-- A rule has found the span of a token in a text and made the token of it. -/
def MadeBy (rule : Rule) (text : Array Char) (p : PlacedToken) : Prop :=
  rule.Finds text p.span ∧ p.token = rule.token (p.span.slice text)

end PlacedToken

/-- Tokens with the spans that they cover, end to end from a place on. -/
def Token.placed : Nat → List Token → List PlacedToken
  | _, [] => []
  | start, t :: rest => ⟨⟨start, start + t.length⟩, t⟩ :: placed (start + t.length) rest

namespace Piece

/-- The token that a piece of a text ends up as, in its place. -/
def placed (text : Array Char) (piece : Piece) : PlacedToken := ⟨piece.span, piece.toToken text⟩

section

variable {made : Span → Token → Prop} {start stop : Nat} {pieces : List Piece}

/-- The pieces between two places lie between them. -/
theorem Tiles.bounds (tiles : Tiles made start pieces stop) {piece : Piece}
    (member : piece ∈ pieces) :
    start ≤ piece.span.start ∧ piece.span.start < piece.span.stop ∧ piece.span.stop ≤ stop := by
  induction tiles with
  | nil place => exact absurd member List.not_mem_nil
  | @cons start stop first rest begins proper isMade later ih =>
      rcases List.mem_cons.1 member with rfl | member
      · exact ⟨Nat.le_of_eq begins.symm, begins ▸ proper, later.le⟩
      · obtain ⟨low, holds, high⟩ := ih member
        exact ⟨by omega, holds, high⟩

theorem Tiles.made_of_mem (tiles : Tiles made start pieces stop) {span : Span} {t : Token}
    (member : token span t ∈ pieces) : made span t := by
  induction tiles with
  | nil place => exact absurd member List.not_mem_nil
  | cons begins proper isMade later ih =>
      rcases List.mem_cons.1 member with rfl | member
      · exact isMade
      · exact ih member

end

/-! ## In isolation -/

section Isolated

variable {pattern : Pattern} {make : Array Char → Token} {text : Array Char}

/-- Carving in isolation keeps tokens and cuts pieces of plain text. -/
theorem mem_carve_iff {pieces : List Piece} {piece : Piece} :
    piece ∈ carve pattern make text pieces ↔
      (piece ∈ pieces ∧ piece.isToken = true) ∨
        ∃ span, plain span ∈ pieces ∧ piece ∈ carveSpan pattern make text span := by
  simp only [carve, List.mem_flatMap]
  constructor
  · rintro ⟨source, member, found⟩
    cases source with
    | plain span => exact Or.inr ⟨span, member, found⟩
    | token span t => exact Or.inl (List.mem_singleton.1 found ▸ ⟨member, rfl⟩)
  · rintro (⟨member, isToken⟩ | ⟨span, member, found⟩)
    · cases piece with
      | plain span => cases isToken
      | token span t => exact ⟨_, member, List.mem_singleton_self _⟩
    · exact ⟨_, member, found⟩

/-- What has become a token was one before, or has been found in a piece of plain text and
made. -/
theorem Tiles.mem_or_made_of_mem_carve {made : Span → Token → Prop} {start stop : Nat}
    {pieces : List Piece} (tiles : Tiles made start pieces stop) (inside : stop ≤ text.size)
    {span : Span} {t : Token} (member : token span t ∈ Piece.carve pattern make text pieces) :
    token span t ∈ pieces ∨
      ∃ region, plain region ∈ pieces ∧ region.start ≤ span.start ∧ span.stop ≤ region.stop ∧
        (∃ part found : Span, part.stop ≤ text.size ∧
          pattern.find (part.slice text) 0 = some found ∧ span = found.shift part.start) ∧
        t = make (span.slice text) := by
  rcases mem_carve_iff.1 member with ⟨kept, _⟩ | ⟨region, isPlain, found⟩
  · exact Or.inl kept
  · have bounds := tiles.bounds isPlain
    let carved (span : Span) (t : Token) : Prop :=
      (∃ part found : Span, part.stop ≤ text.size ∧
        pattern.find (part.slice text) 0 = some found ∧ span = found.shift part.start) ∧
      t = make (span.slice text)
    have row : Tiles carved region.start (carveSpan pattern make text region) region.stop :=
      tiles_carveSpan (fun part found within isFound => ⟨⟨part, found, within, isFound, rfl⟩, rfl⟩)
        region bounds.2.1 (Nat.le_trans bounds.2.2 inside)
    have place := row.bounds found
    exact Or.inr ⟨region, isPlain, place.1, place.2.2, row.made_of_mem found⟩

end Isolated

/-! ## Greedily -/

section Greedy

variable {made : Span → Token → Prop} {start stop place : Nat} {pieces : List Piece} {span : Span}
  {t : Token}

/-- A token that begins at a place or behind it is still there when what lies before the
place has been given up. -/
theorem Tiles.mem_behind (tiles : Tiles made start pieces stop) (before : start < place)
    (member : token span t ∈ pieces) (later : place ≤ span.start) :
    token span t ∈ Piece.behind place pieces := by
  induction tiles with
  | nil place => exact absurd member List.not_mem_nil
  | @cons start stop first rest begins proper isMade others ih =>
      have inRest : token span t ∈ rest := by
        rcases List.mem_cons.1 member with rfl | inRest
        · simp only [Piece.span] at begins
          omega
        · exact inRest
      simp only [Piece.behind]
      split
      · next passed => exact ih passed inRest
      · exact List.mem_append_right _ inRest

theorem token_notMem_plainUnlessEmpty {region : Span} : token span t ∉ plainUnlessEmpty region := by
  simp only [plainUnlessEmpty]
  split <;> simp

/-- Giving up what lies before a place makes no tokens. -/
theorem token_mem_of_mem_behind (member : token span t ∈ behind place pieces) :
    token span t ∈ pieces := by
  induction pieces with
  | nil => exact member
  | cons first rest ih =>
      simp only [behind] at member
      split at member
      · exact List.mem_cons_of_mem _ (ih member)
      · exact List.mem_cons_of_mem _
          ((List.mem_append.1 member).resolve_left token_notMem_plainUnlessEmpty)

/-- **Carving greedily keeps a token or overruns it.** -/
theorem Tiles.kept_or_overrun (pattern : Pattern) (make : Array Char → Token) {text : Array Char}
    (tiles : Tiles made start pieces text.size) (member : token span t ∈ pieces) :
    token span t ∈ Piece.carveGreedy pattern make text pieces ∨
      ∃ place found, pattern.find text place = some found ∧
        token found (make (found.slice text)) ∈ Piece.carveGreedy pattern make text pieces ∧
        found.start < span.start ∧ span.start < found.stop := by
  fun_induction Piece.carveGreedy pattern make text pieces generalizing start with
  | case1 => exact absurd member List.not_mem_nil
  | case2 first made' rest ih =>
      rcases List.mem_cons.1 member with same | member
      · exact Or.inl (same ▸ List.mem_cons_self)
      · rcases ih tiles.uncons.2.2 member with kept | ⟨place, found, isFound, there, overruns⟩
        · exact Or.inl (List.mem_cons_of_mem _ kept)
        · exact Or.inr ⟨place, found, isFound, List.mem_cons_of_mem _ there, overruns⟩
  | case3 first rest nothing => exact Or.inl member
  | case4 first rest found isFound beyond ih =>
      have inRest := (List.mem_cons.1 member).resolve_left Piece.noConfusion
      rcases ih tiles.uncons.2.2 inRest with kept | ⟨place, other, isOther, there, overruns⟩
      · exact Or.inl (List.mem_cons_of_mem _ kept)
      · exact Or.inr ⟨place, other, isOther, List.mem_cons_of_mem _ there, overruns⟩
  | case5 first rest found isFound here ih =>
      obtain ⟨low, holds, within⟩ := Pattern.find_bounds isFound
      have begins : first.start = start := tiles.uncons.1
      by_cases reached : span.start < found.stop
      · have inRest := (List.mem_cons.1 member).resolve_left Piece.noConfusion
        have behindFirst : first.stop ≤ span.start := (tiles.uncons.2.2.bounds inRest).1
        refine Or.inr ⟨first.start, found, isFound, ?_, by omega, reached⟩
        exact List.mem_append_right _ List.mem_cons_self
      · have left : Tiles made found.stop (Piece.behind found.stop (.plain first :: rest))
            text.size := tiles.behind (by omega) within
        have there := tiles.mem_behind (by omega) member (Nat.not_lt.1 reached)
        rcases ih left there with kept | ⟨place, other, isOther, there, overruns⟩
        · exact Or.inl (List.mem_append_right _ (List.mem_cons_of_mem _ kept))
        · exact Or.inr ⟨place, other, isOther,
            List.mem_append_right _ (List.mem_cons_of_mem _ there), overruns⟩

/-- What has become a token was one before, or has been found and made. -/
theorem mem_or_made_of_mem_carveGreedy {pattern : Pattern} {make : Array Char → Token}
    {text : Array Char} (member : token span t ∈ carveGreedy pattern make text pieces) :
    token span t ∈ pieces ∨
      (∃ place, pattern.find text place = some span) ∧ t = make (span.slice text) := by
  fun_induction carveGreedy pattern make text pieces with
  | case1 => exact absurd member List.not_mem_nil
  | case2 first made' rest ih =>
      rcases List.mem_cons.1 member with same | member
      · exact Or.inl (same ▸ List.mem_cons_self)
      · exact (ih member).imp_left (List.mem_cons_of_mem _)
  | case3 first rest nothing => exact Or.inl member
  | case4 first rest found isFound beyond ih =>
      have later := (List.mem_cons.1 member).resolve_left Piece.noConfusion
      exact (ih later).imp_left (List.mem_cons_of_mem _)
  | case5 first rest found isFound here ih =>
      rcases List.mem_cons.1 ((List.mem_append.1 member).resolve_left
        token_notMem_plainUnlessEmpty) with new | later
      · cases new
        exact Or.inr ⟨⟨first.start, isFound⟩, rfl⟩
      · exact (ih later).imp_left token_mem_of_mem_behind

end Greedy

/-! ## From pieces to tokens -/

namespace Tiles

variable {rules : List Rule} {text : Array Char} {start stop : Nat} {pieces : List Piece}
  (tiles : Tiles (Token.Carved rules text) start pieces stop)
include tiles

/-- The tokens of pieces stand where the pieces do. -/
theorem placed_toToken (inside : stop ≤ text.size) :
    Token.placed start (pieces.map (toToken text)) = pieces.map (placed text) := by
  induction tiles with
  | nil place => rfl
  | @cons start stop piece rest begins proper isMade later ih =>
      have length := isMade.length_toToken (Nat.le_trans later.le inside)
      have ends : start + (piece.toToken text).length = piece.span.stop := by omega
      rw [List.map_cons, Token.placed, ends, ih inside, List.map_cons, placed, ← begins]

/-- A token of a category comes of a piece that has become a token. -/
theorem typed_placed_iff {piece : Piece} (member : piece ∈ pieces) :
    (piece.placed text).Typed ↔ piece.isToken = true := by
  have isMade := tiles.forall_made piece member
  refine ⟨fun typed => ?_, isMade.category?_toToken⟩
  cases piece with
  | plain span => exact absurd rfl typed
  | token span t => rfl

end Tiles

end Piece

namespace Rule

theorem applyAll_append (first second : List Rule) (text : Array Char) (pieces : List Piece) :
    applyAll (first ++ second) text pieces = applyAll second text (applyAll first text pieces) := by
  induction first generalizing pieces with
  | nil => simp only [List.nil_append, applyAll]
  | cons rule rest ih => simp only [List.cons_append, applyAll, ih]

/-- The last rule is applied to what the others have left. -/
theorem applyAll_concat (rules : List Rule) (rule : Rule) (text : Array Char)
    (pieces : List Piece) :
    applyAll (rules ++ [rule]) text pieces =
      if rule.greedy then
        Piece.carveGreedy rule.pattern rule.token text (applyAll rules text pieces)
      else Piece.carve rule.pattern rule.token text (applyAll rules text pieces) := by
  simp only [applyAll_append, applyAll]

end Rule

namespace Grammar

/-- The pieces that a grammar makes of a text. -/
def pieces (g : Grammar) (text : Array Char) : List Piece :=
  Rule.applyAll g.rules text (Piece.start text)

theorem tiles_pieces (g : Grammar) (text : Array Char) :
    Piece.Tiles (Token.Carved g.rules text) 0 (g.pieces text) text.size :=
  Rule.tiles_applyAll g.rules (fun _ member => member) (fun rule _ => rule.makes)
    (Piece.tiles_start text)

/-- The tokens of a text in their places. -/
theorem placed_tokenize (g : Grammar) (text : String) :
    Token.placed 0 (g.tokenize text) =
      (g.pieces (charactersOf text)).map (Piece.placed (charactersOf text)) :=
  (g.tiles_pieces (charactersOf text)).placed_toToken (Nat.le_refl _)

theorem mem_placed {g : Grammar} {text : String} {piece : Piece}
    (member : piece ∈ g.pieces (charactersOf text)) :
    piece.placed (charactersOf text) ∈ Token.placed 0 (g.tokenize text) := by
  rw [placed_tokenize]
  exact List.mem_map_of_mem member

/-- A token of a category is one of the pieces. -/
theorem piece_of_typed {g : Grammar} {text : String} {p : PlacedToken}
    (member : p ∈ Token.placed 0 (g.tokenize text)) (typed : p.Typed) :
    Piece.token p.span p.token ∈ g.pieces (charactersOf text) := by
  rw [placed_tokenize] at member
  obtain ⟨piece, isPiece, rfl⟩ := List.mem_map.1 member
  have isToken := ((g.tiles_pieces _).typed_placed_iff isPiece).1 typed
  cases piece with
  | plain span => cases isToken
  | token span t => exact isPiece

/-- The pieces after one more rule. -/
theorem pieces_add (g : Grammar) (rule : Rule) (text : Array Char) :
    (g.add (.ok rule)).pieces text =
      if rule.greedy then Piece.carveGreedy rule.pattern rule.token text (g.pieces text)
      else Piece.carve rule.pattern rule.token text (g.pieces text) :=
  Rule.applyAll_concat g.rules rule text (Piece.start text)

/-- **What one more rule changes.** Each token of a category that is new has been made by
the rule. If the rule is greedy, a token of a category is kept or overrun by one that the
rule has made. If it is not, all tokens of a category are kept, and the new ones lie in
literals. -/
theorem tokens_after_add (g : Grammar) (rule : Rule) (text : String) :
    let before := Token.placed 0 (g.tokenize text)
    let after := Token.placed 0 ((g.add (.ok rule)).tokenize text)
    (∀ p ∈ after, p.Typed → p ∉ before → p.MadeBy rule (charactersOf text)) ∧
      if rule.greedy = true then
        ∀ p ∈ before, p.Typed →
          p ∈ after ∨ ∃ q ∈ after, q.MadeBy rule (charactersOf text) ∧ q.Overruns p
      else
        (∀ p ∈ before, p.Typed → p ∈ after) ∧
          ∀ p ∈ after, p.Typed → p ∉ before → ∃ q ∈ before, ¬ q.Typed ∧ p.LiesIn q := by
  intro before after
  have old := g.tiles_pieces (charactersOf text)
  have grown := g.pieces_add rule (charactersOf text)
  by_cases greedy : rule.greedy = true
  · rw [if_pos greedy] at grown ⊢
    refine ⟨fun p member typed new => ?_, fun p member typed => ?_⟩
    · have there := grown ▸ piece_of_typed member typed
      rcases Piece.mem_or_made_of_mem_carveGreedy there with kept | ⟨found, isMade⟩
      · exact absurd (mem_placed kept) new
      · exact ⟨by rwa [Rule.Finds, if_pos greedy], isMade⟩
    · rcases old.kept_or_overrun rule.pattern rule.token (piece_of_typed member typed) with
        kept | ⟨place, found, isFound, there, overruns⟩
      · exact Or.inl (mem_placed (grown ▸ kept))
      · refine Or.inr ⟨⟨found, rule.token (found.slice (charactersOf text))⟩,
          mem_placed (grown ▸ there), ⟨?_, rfl⟩, overruns⟩
        rw [Rule.Finds, if_pos greedy]
        exact ⟨place, isFound⟩
  · rw [if_neg greedy] at grown ⊢
    have cut (p : PlacedToken) (member : p ∈ after) (typed : p.Typed) (new : p ∉ before) :
        p.MadeBy rule (charactersOf text) ∧ ∃ q ∈ before, ¬ q.Typed ∧ p.LiesIn q := by
      have there := grown ▸ piece_of_typed member typed
      rcases old.mem_or_made_of_mem_carve (Nat.le_refl _) there with
        kept | ⟨region, isPlain, low, high, found, isMade⟩
      · exact absurd (mem_placed kept) new
      · refine ⟨⟨by rwa [Rule.Finds, if_neg greedy], isMade⟩, _, mem_placed isPlain, ?_, low, high⟩
        exact fun typed => absurd rfl typed
    refine ⟨fun p member typed new => (cut p member typed new).1, fun p member typed => ?_,
      fun p member typed new => (cut p member typed new).2⟩
    have kept : Piece.token p.span p.token ∈ (g.add (.ok rule)).pieces (charactersOf text) := by
      rw [grown]
      exact Piece.mem_carve_iff.2 (Or.inl ⟨piece_of_typed member typed, rfl⟩)
    exact mem_placed kept

end Grammar

end Highlight
