import Highlight.Proofs.Grammar.EarlyExit
import Highlight.Proofs.Grammar.PieceLoops

/-!
# Tokenizing is total

Tokenizing can be written out with loops that go along a row of pieces in place, in bytes
(`Grammar.tokenize?`). Every number of a piece is checked against the row then, and every range of
bytes against the text, by the rules of a grammar and by those nested in them to any depth. It comes
to nothing if a check fails anywhere or if a loop is not done within a number of rounds.

That never happens: whatever the grammar and the text are, it comes to the tokens of the text
(`Grammar.tokenize_total`). For a row of rules it follows if each of them makes its tokens without a
check that fails, because the pieces that rules leave lie end to end (`Rule.applyAll?_inBytes`). For
a single rule it is shown by induction on how deep it is nested (`Rule.checked`).
-/

namespace Highlight

set_option autoImplicit false

/-! ## Tokenizing with checks -/

/-- The token that a piece of a text ends up as, cut out of the text. -/
def Piece.toToken? (text : Array Char) : Piece → Option Token
  | plain range => (sliceBytes? text range).map fun part => .literal (stringOf part)
  | .token _ made => some made

/-- The tokens of a text whose pieces are carved with checks. An empty text has none. -/
def tokensBy? (carve : Array Char → List Piece → Option (List Piece)) (text : Array Char) :
    Option (List Token) :=
  if text.isEmpty then some []
  else do
    let pieces ← carve text [.plain ⟨0, byteLength text⟩]
    pieces.mapM (Piece.toToken? text)

mutual

/-- The token that a rule makes of the text it has found. -/
def Rule.token? : Rule → Array Char → Option Token
  | ⟨category, _, _, secondName, inside⟩, found =>
      Rule.tokenInside? category secondName inside found

/-- A token over a text, cut further by inner rules if there are any. -/
def Rule.tokenInside? (category : String) (secondName : Option String) :
    Option (List Rule) → Array Char → Option Token
  | none, found => some (.leaf category secondName (stringOf found))
  | some rules, found =>
      (tokensBy? (Rule.applyAll? rules) found).map (Token.node category secondName)

/-- The pieces that some rules, applied in order, make of the pieces of a text. -/
def Rule.applyAll? : List Rule → Array Char → List Piece → Option (List Piece)
  | [], _, pieces => some pieces
  | rule :: rest, text, pieces => do
      let carved ←
        if rule.greedy then Piece.carveGreedy? rule.pattern (Rule.token? rule) text pieces
        else Piece.carve? rule.pattern (Rule.token? rule) text pieces
      Rule.applyAll? rest text carved

end

/-- The tokens of a text. -/
def Grammar.tokenize? (g : Grammar) (text : String) : Option (List Token) :=
  tokensBy? (Rule.applyAll? g.rules) (charactersOf text)

/-! ## No check fails -/

namespace Piece

variable {made : Span → Token → Prop} {start stop : Nat} {pieces : List Piece} {text : Array Char}

/-- Pieces that lie end to end can be cut out of their text. -/
theorem Tiles.mapM_toToken? (tiles : Tiles made start pieces stop) (inside : stop ≤ text.size) :
    (pieces.map (inBytes text)).mapM (toToken? text) = some (pieces.map (toToken text)) := by
  induction tiles with
  | nil place => rfl
  | @cons start stop piece rest begins proper isMade later ih =>
      have cut : toToken? text (piece.inBytes text) = some (piece.toToken text) := by
        cases piece with
        | token span t => rfl
        | plain span =>
            have ordered : span.start ≤ span.stop := begins ▸ Nat.le_of_lt proper
            rw [inBytes, toToken?, sliceBytes?_inBytes ordered (Nat.le_trans later.le inside)]
            rfl
      rw [List.map_cons, List.mapM_cons, cut, ih inside]
      rfl

end Piece

namespace Rule

/-- A rule makes its tokens without a check that fails. -/
def Checked (rule : Rule) : Prop :=
  ∀ found, rule.token? found = some (rule.token found)

/-- **Rules can be applied in order to pieces that lie end to end**, without a check that fails. -/
theorem applyAll?_inBytes {rules : List Rule} (checked : ∀ rule ∈ rules, rule.Checked)
    {text : Array Char} {pieces : List Piece}
    (tiles : Piece.Tiles (fun _ _ => True) 0 pieces text.size) :
    applyAll? rules text (pieces.map (Piece.inBytes text)) =
      some ((applyAll rules text pieces).map (Piece.inBytes text)) := by
  induction rules generalizing pieces with
  | nil => rfl
  | cons rule rest ih =>
      obtain ⟨here, later⟩ := List.forall_mem_cons.1 checked
      rw [applyAll?, applyAll]
      split
      · have carved : Piece.Tiles (fun _ _ => True) 0
            (Piece.carveGreedy rule.pattern rule.token text pieces) text.size :=
          tiles.carveGreedy fun _ _ _ => trivial
        rw [Piece.carveGreedy?_inBytes here tiles, Option.bind_eq_bind, Option.bind_some]
        exact ih later carved
      · have carved : Piece.Tiles (fun _ _ => True) 0
            (Piece.carve rule.pattern rule.token text pieces) text.size :=
          tiles.carve (fun _ _ _ _ => trivial) (Nat.le_refl _)
        rw [Piece.carve?_inBytes here tiles, Option.bind_eq_bind, Option.bind_some]
        exact ih later carved

/-- Rules that make their tokens without a check that fails make those of a text so. -/
theorem tokensBy?_applyAll? {rules : List Rule} (checked : ∀ rule ∈ rules, rule.Checked)
    (text : Array Char) :
    tokensBy? (applyAll? rules) text =
      some ((applyAll rules text (Piece.start text)).map (Piece.toToken text)) := by
  have tiles := tiles_applyAll_start rules text
  rw [tokensBy?]
  split
  · next empty =>
    rw [Array.isEmpty_iff_size_eq_zero.1 empty] at tiles
    rw [tiles.eq_nil]
    rfl
  · next holds =>
    have proper : 0 < text.size := Nat.pos_of_ne_zero (mt Array.isEmpty_iff_size_eq_zero.2 holds)
    have whole : [Piece.plain ⟨0, byteLength text⟩] =
        (Piece.start text).map (Piece.inBytes text) := by
      rw [Piece.start, Piece.plainUnlessEmpty, if_pos proper]
      rfl
    rw [whole, applyAll?_inBytes checked (Piece.tiles_start text), Option.bind_eq_bind,
      Option.bind_some]
    exact tiles.mapM_toToken? (Nat.le_refl _)

/-- **Every rule makes its tokens without a check that fails**, whatever rules it has inside. -/
theorem checked (rule : Rule) : rule.Checked := by
  induction rule using Rule.induction with
  | step rule ih =>
      intro found
      obtain ⟨category, pattern, greedy, secondName, inside⟩ := rule
      cases inside with
      | none => rfl
      | some inner =>
          rw [token?, tokenInside?, tokensBy?_applyAll? (ih inner rfl), Option.map_some, token,
            tokenInside]

end Rule

/-- **Tokenizing is total.** For every grammar, with all that is nested in it, and for every text
all loops end: those over pieces and over matches within one round for each character and one more,
and the search for the last piece of a match within one round for each piece. No number of a piece
leads out of the row, and no range of bytes that is cut out is inverted, leaves the text or parts a
character. What comes out are the tokens of the text. -/
theorem Grammar.tokenize_total (g : Grammar) (text : String) :
    g.tokenize? text = some (g.tokenize text) :=
  Rule.tokensBy?_applyAll? (fun rule _ => rule.checked) (charactersOf text)

end Highlight
