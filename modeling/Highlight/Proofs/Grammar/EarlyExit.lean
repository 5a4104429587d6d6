import Highlight.Proofs.Grammar.Partition
import Highlight.Proofs.Pattern.Preference

/-!
# Leaving a greedy search early

Carving greedily ends at the first piece of plain text from which nothing is found, and leaves
the pieces behind it as they are. One could as well go on with the next piece
(`Piece.carveGreedyOn`), and it makes no difference.

A search that finds nothing from a place on finds nothing from any later place
(`Pattern.find_eq_none_of_le`), whatever the pattern looks at before its token. Pieces that lie
end to end begin further and further on, so going on changes none of them
(`Piece.Tiles.carveGreedyOn_eq_self`). As the pieces that are left after a token lie end to end
again, carving greedily comes to the same either way (`Piece.Tiles.carveGreedyOn_eq`), and the
pieces that any rules leave behind are such pieces (`Rule.carveGreedy_leaves_early`).
-/

namespace Highlight

set_option autoImplicit false

/-- Where nothing is found, nothing is found from any later place. -/
theorem Pattern.find_eq_none_of_le {p : Pattern} {text : Array Char} {place later : Nat}
    (nothing : p.find text place = none) (le : place ≤ later) : p.find text later = none := by
  rw [find_eq_none_iff] at nothing ⊢
  intro i low
  exact nothing i (Nat.le_trans le low)

namespace Piece

/-- Carves tokens that begin in pieces of plain text, and tries all these pieces, also when
nothing has been found from an earlier one on. -/
def carveGreedyOn (pattern : Pattern) (make : Array Char → Token) (text : Array Char) :
    List Piece → List Piece
  | [] => []
  | token span made :: rest => token span made :: carveGreedyOn pattern make text rest
  | plain span :: rest =>
      match _found : pattern.find text span.start with
      | none => plain span :: carveGreedyOn pattern make text rest
      | some found =>
          if span.stop ≤ found.start then plain span :: carveGreedyOn pattern make text rest
          else
            plainUnlessEmpty ⟨span.start, found.start⟩ ++
              token found (make (found.slice text)) ::
                carveGreedyOn pattern make text (behind found.stop (plain span :: rest))
termination_by pieces => work pieces
decreasing_by
  · exact work_tail_lt _ rest
  · exact work_tail_lt _ rest
  · exact work_tail_lt _ rest
  · have := Pattern.find_bounds _found
    exact work_behind_lt rest (by omega)

variable {pattern : Pattern} {make : Array Char → Token} {text : Array Char}
  {made : Span → Token → Prop} {start : Nat} {pieces : List Piece}

/-- Where nothing is found any more, going on changes nothing. -/
theorem Tiles.carveGreedyOn_eq_self {stop : Nat} (tiles : Tiles made start pieces stop)
    (nothing : pattern.find text start = none) :
    carveGreedyOn pattern make text pieces = pieces := by
  induction tiles with
  | nil place => rw [carveGreedyOn]
  | @cons start stop piece rest begins proper isMade later ih =>
      have further : pattern.find text piece.span.stop = none :=
        Pattern.find_eq_none_of_le nothing (Nat.le_of_lt proper)
      cases piece with
      | token span t => rw [carveGreedyOn, ih further]
      | plain span =>
          have here : pattern.find text span.start = none := begins ▸ nothing
          rw [carveGreedyOn]
          split
          · rw [ih further]
          · next found isFound =>
            rw [here] at isFound
            cases isFound

/-- **Carving greedily can be left early**: on pieces that lie end to end it comes to the same if
it goes on. -/
theorem Tiles.carveGreedyOn_eq (tiles : Tiles made start pieces text.size) :
    Piece.carveGreedyOn pattern make text pieces = Piece.carveGreedy pattern make text pieces := by
  fun_induction Piece.carveGreedy pattern make text pieces generalizing start with
  | case1 => rw [carveGreedyOn]
  | case2 span t rest ih =>
      obtain ⟨-, -, later⟩ := tiles.uncons
      rw [carveGreedyOn, ih later]
  | case3 span rest nothing =>
      have begins : span.start = start := tiles.uncons.1
      exact tiles.carveGreedyOn_eq_self (begins ▸ nothing)
  | case4 span rest found isFound beyond ih =>
      obtain ⟨-, -, later⟩ := tiles.uncons
      rw [carveGreedyOn, ← ih later]
      split
      · rfl
      · next other isOther =>
        cases isFound.symm.trans isOther
        rw [if_pos beyond]
  | case5 span rest found isFound here ih =>
      have bounds := Pattern.find_bounds isFound
      have begins : span.start = start := tiles.uncons.1
      have left : Tiles made found.stop (Piece.behind found.stop (plain span :: rest)) text.size :=
        tiles.behind (by omega) bounds.2.2
      rw [carveGreedyOn, ← ih left]
      split
      · next nothing =>
        rw [isFound] at nothing
        cases nothing
      · next other isOther =>
        cases isFound.symm.trans isOther
        rw [if_neg here]

end Piece

namespace Rule

/-- The pieces that rules make of a text lie end to end. -/
theorem tiles_applyAll_start (rules : List Rule) (text : Array Char) :
    Piece.Tiles (fun _ _ => True) 0 (applyAll rules text (Piece.start text)) text.size :=
  tiles_applyAll_of_makes rules (fun _ _ _ _ => trivial) (Piece.tiles_start text)

/-- **A greedy rule can leave its search early.** It carves the same out of the pieces that any
earlier rules have left of a text, whether it ends at the first piece from which nothing is found
or goes on with the next one. -/
theorem carveGreedy_leaves_early (earlier : List Rule) (rule : Rule) (text : Array Char) :
    Piece.carveGreedy rule.pattern rule.token text (applyAll earlier text (Piece.start text)) =
      Piece.carveGreedyOn rule.pattern rule.token text
        (applyAll earlier text (Piece.start text)) :=
  (tiles_applyAll_start earlier text).carveGreedyOn_eq.symm

end Rule

end Highlight
