import Highlight.Proofs.Grammar.PlainText

/-!
# Carving place by place

Where a greedy rule runs on over the beginning of a token that was there before, the token is lost.
Whether it does depends on all that the rule finds in front of the token, and that is read off the
text place by place. One more place of plain text in front of some pieces (`Piece.Front`) makes no
difference if nothing matches there (`Piece.Front.runsOver_iff`). If something does, it is carved,
and what is left behind it is read on (`Piece.Front.runsOver_of_found`).

A place that is given up was plain text or part of a token, and the rest of the piece it was in is
plain text from there on. So what is left when a number of places have been given up
(`Piece.skip`) is read off one by one as well (`Piece.Front.skip_succ`).
-/

namespace Highlight

set_option autoImplicit false

namespace Piece

variable {pattern : Pattern} {make : Array Char → Token} {text : Array Char}
  {pieces rest whole : List Piece} {start stop place other : Nat} {span : Span} {t : Token}

/-! ## Tokens that are lost -/

/-- A greedy pattern carves a token that begins before a place and ends behind it. -/
def RunsOver (pattern : Pattern) (make : Array Char → Token) (text : Array Char)
    (pieces : List Piece) (place : Nat) : Prop :=
  ∃ span t, token span t ∈ carveGreedy pattern make text pieces ∧
    span.start < place ∧ place < span.stop

/-- **A token is kept unless one that is carved runs over its beginning.** -/
theorem Tiles.kept_iff (tiles : Tiles (fun _ _ => True) start pieces text.size)
    (member : token span t ∈ pieces) :
    token span t ∈ Piece.carveGreedy pattern make text pieces ↔
      ¬ RunsOver pattern make text pieces span.start := by
  constructor
  · rintro kept ⟨span', t', there, early, late⟩
    have all : Tiles (fun _ _ => True) start (Piece.carveGreedy pattern make text pieces)
        text.size := tiles.carveGreedy fun _ _ _ => trivial
    have bounds := (tiles.bounds member).2
    cases all.eq_of_shared kept there ⟨Nat.le_refl _, bounds.1⟩ ⟨Nat.le_of_lt early, late⟩
    exact absurd early (Nat.lt_irrefl _)
  · intro free
    refine (tiles.kept_or_overrun pattern make member).resolve_right ?_
    rintro ⟨_, found, _, there, overruns⟩
    exact free ⟨found, _, there, overruns⟩

/-- A token in front that ends before the place makes no difference. -/
theorem runsOver_token_cons (before : span.stop ≤ place) :
    RunsOver pattern make text (token span t :: rest) place ↔
      RunsOver pattern make text rest place := by
  simp only [RunsOver, carveGreedy, List.mem_cons, or_and_right, exists_or, token.injEq]
  refine or_iff_right ?_
  rintro ⟨span', t', ⟨rfl, rfl⟩, _, late⟩
  omega

/-- Pieces from a place on have no token that begins before it. -/
theorem Tiles.not_runsOver (tiles : Tiles (fun _ _ => True) place pieces text.size) :
    ¬ RunsOver pattern make text pieces place := by
  rintro ⟨span, t, there, early, _⟩
  have all : Tiles (fun _ _ => True) place (Piece.carveGreedy pattern make text pieces)
      text.size := tiles.carveGreedy fun _ _ _ => trivial
  exact absurd early (Nat.not_lt.2 (all.bounds there).1)

/-! ## One more place in front -/

/-- Pieces with one more place of plain text in front, as a piece of its own or as a part of the
next one. -/
inductive Front (place : Nat) : List Piece → List Piece → Prop where
  | apart (rest : List Piece) : Front place rest (plain ⟨place, place + 1⟩ :: rest)
  | joined (stop : Nat) (rest : List Piece) :
      Front place (plain ⟨place + 1, stop⟩ :: rest) (plain ⟨place, stop⟩ :: rest)

theorem front_plainUnlessEmpty (more : place < stop) (rest : List Piece) :
    Front place (plainUnlessEmpty ⟨place + 1, stop⟩ ++ rest)
      (plainUnlessEmpty ⟨place, stop⟩ ++ rest) := by
  simp only [plainUnlessEmpty, more, if_true]
  split
  · exact .joined stop rest
  · obtain rfl : stop = place + 1 := by omega
    exact .apart rest

namespace Front

variable (front : Front place rest whole)
include front

theorem token_mem_iff : token span t ∈ whole ↔ token span t ∈ rest := by
  cases front <;> simp only [List.mem_cons, reduceCtorEq, false_or]

variable (tiles : Tiles (fun _ _ => True) (place + 1) rest text.size)
include tiles

/-- A piece that the place is the first of. -/
theorem exists_cons : ∃ stop others, whole = plain ⟨place, stop⟩ :: others ∧ place < stop := by
  cases front with
  | apart rest => exact ⟨_, _, rfl, Nat.lt_succ_self _⟩
  | joined stop rest =>
      have proper : place + 1 < stop := tiles.uncons.2.1
      exact ⟨_, _, rfl, by omega⟩

/-- **Where nothing matches, carving leaves one more place in front.** -/
theorem carveGreedy (nothing : pattern.tokenAt text place = none) :
    Front place (Piece.carveGreedy pattern make text rest)
      (Piece.carveGreedy pattern make text whole) := by
  have inside : place < text.size := tiles.le
  have same := Pattern.find_succ inside nothing
  cases front with
  | apart rest =>
      cases found : pattern.find text (place + 1) with
      | none =>
          have quiet : Piece.carveGreedy pattern make text rest = rest :=
            carveGreedy_eq_self fun i isPlain =>
              Pattern.find_eq_none_iff.1 found i (tiles.bounds_of_plainAt isPlain).1
          rw [quiet, carveGreedy_plain_of_none (same.trans found)]
          exact .apart rest
      | some s =>
          have bounds := Pattern.find_bounds found
          rw [carveGreedy_plain_of_some (same.trans found), if_pos bounds.1]
          exact .apart _
  | joined stop rest =>
      cases found : pattern.find text (place + 1) with
      | none =>
          rw [carveGreedy_plain_of_none found, carveGreedy_plain_of_none (same.trans found)]
          exact .joined stop rest
      | some s =>
          have bounds := Pattern.find_bounds found
          have left : behind s.stop (plain ⟨place, stop⟩ :: rest) =
              behind s.stop (plain ⟨place + 1, stop⟩ :: rest) := rfl
          rw [carveGreedy_plain_of_some found, carveGreedy_plain_of_some (same.trans found), left]
          split
          · exact .joined stop _
          · exact front_plainUnlessEmpty (by omega) _

theorem runsOver_iff (nothing : pattern.tokenAt text place = none) :
    RunsOver pattern make text whole other ↔ RunsOver pattern make text rest other := by
  simp only [RunsOver, (front.carveGreedy tiles nothing).token_mem_iff]

end Front

/-! ## Places that are given up -/

/-- What is left of pieces from a place when a number of places have been given up. -/
def skip (count place : Nat) (pieces : List Piece) : List Piece :=
  if count = 0 then pieces else behind (place + count) pieces

theorem skip_zero (place : Nat) (pieces : List Piece) : skip 0 place pieces = pieces := rfl

theorem skip_succ (count place : Nat) (pieces : List Piece) :
    skip (count + 1) place pieces = behind (place + count + 1) pieces := rfl

theorem plainUnlessEmpty_self (place : Nat) : plainUnlessEmpty ⟨place, place⟩ = [] :=
  if_neg (Nat.lt_irrefl place)

/-- A token of which places are given up is plain text from there on. -/
theorem skip_token (count : Nat) :
    skip (count + 1) place (token span t :: rest) = skip (count + 1) place (plain span :: rest) :=
  rfl

namespace Front

variable (front : Front place rest whole)
  (tiles : Tiles (fun _ _ => True) (place + 1) rest text.size)
include front tiles

/-- Places are given up one by one. -/
theorem skip_succ (count : Nat) : skip (count + 1) place whole = skip count (place + 1) rest := by
  have moved (count : Nat) : place + count + 1 = place + 1 + count :=
    Nat.add_right_comm place count 1
  cases front with
  | apart rest =>
      cases count with
      | zero =>
          rw [Piece.skip_succ, behind, Piece.span, if_neg (Nat.lt_irrefl _), skip_zero,
            plainUnlessEmpty_self, List.nil_append]
      | succ count =>
          rw [Piece.skip_succ, behind, Piece.span, if_pos (by simp only; omega), Piece.skip_succ,
            moved]
          rfl
  | joined stop rest =>
      have proper : place + 1 < stop := tiles.uncons.2.1
      cases count with
      | zero =>
          rw [Piece.skip_succ, behind, Piece.span, if_neg (by simp only; omega), skip_zero,
            plainUnlessEmpty, if_pos proper, List.singleton_append]
      | succ count =>
          rw [Piece.skip_succ, Piece.skip_succ, moved]
          rfl

/-- **Where something matches, what is left behind it is read on.** -/
theorem runsOver_of_found {count : Nat}
    (found : pattern.tokenAt text place = some ⟨place, place + 1 + count⟩)
    (before : place < other) :
    RunsOver pattern make text whole other ↔ other < place + 1 + count ∨
      RunsOver pattern make text (skip count (place + 1) rest) other := by
  obtain ⟨stop, others, isWhole, more⟩ := front.exists_cons tiles
  have left : behind (place + 1 + count) whole = skip count (place + 1) rest := by
    rw [← front.skip_succ tiles, Piece.skip_succ, Nat.add_right_comm]
  have carved : Piece.carveGreedy pattern make text whole =
      token ⟨place, place + 1 + count⟩
          (make ((⟨place, place + 1 + count⟩ : Span).slice text)) ::
        Piece.carveGreedy pattern make text (behind (place + 1 + count) whole) := by
    rw [isWhole, carveGreedy_plain_of_some (Pattern.find_of_tokenAt found),
      if_neg (Nat.not_le.2 more), plainUnlessEmpty_self, List.nil_append]
  rw [RunsOver, carved, left]
  simp only [List.mem_cons, or_and_right, exists_or, token.injEq]
  refine or_congr ⟨?_, fun late => ⟨_, _, ⟨rfl, rfl⟩, before, late⟩⟩ Iff.rfl
  rintro ⟨_, _, ⟨rfl, _⟩, _, late⟩
  exact late

end Front

section Plain

variable (tiles : Tiles (fun _ _ => True) stop rest text.size)
include tiles

theorem tiles_plainUnlessEmpty_append (inside : place ≤ stop) :
    Tiles (fun _ _ => True) place (plainUnlessEmpty ⟨place, stop⟩ ++ rest) text.size :=
  (tiles_plainUnlessEmpty inside).append tiles

/-- A stretch of plain text in which nothing matches makes no difference. -/
theorem runsOver_plain_iff (inside : place ≤ stop)
    (nothing : ∀ i, place ≤ i → i < stop → pattern.tokenAt text i = none) :
    RunsOver pattern make text (plainUnlessEmpty ⟨place, stop⟩ ++ rest) other ↔
      RunsOver pattern make text rest other := by
  induction inside using Nat.decreasingInduction with
  | self => rw [plainUnlessEmpty_self, List.nil_append]
  | of_succ place early ih =>
      rw [← ih fun i low => nothing i (Nat.le_of_succ_le low)]
      exact (front_plainUnlessEmpty early rest).runsOver_iff
        (tiles_plainUnlessEmpty_append tiles early) (nothing place (Nat.le_refl _) early)

/-- Of a stretch of plain text as many places are given up as are wanted. -/
theorem skip_plain (count more : Nat) (inside : place + more ≤ stop) :
    skip (count + more) place (plainUnlessEmpty ⟨place, stop⟩ ++ rest) =
      skip count (place + more) (plainUnlessEmpty ⟨place + more, stop⟩ ++ rest) := by
  induction more generalizing place with
  | zero => rfl
  | succ more ih =>
      have early : place < stop := by omega
      have moved : place + 1 + more = place + (more + 1) := by omega
      rw [← Nat.add_assoc, (front_plainUnlessEmpty early rest).skip_succ
        (tiles_plainUnlessEmpty_append tiles early), ih (by omega), moved]

end Plain

/-! ## The rest of a text in one piece -/

theorem front_row (inside : place < text.size) (nothing : pattern.tokenAt text place = none) :
    Front place (row pattern make text (place + 1)) (row pattern make text place) := by
  have front := front_plainUnlessEmpty inside []
  rw [List.append_nil, List.append_nil] at front
  exact front.carveGreedy (tiles_plainUnlessEmpty inside) nothing

theorem row_of_tokenAt (found : pattern.tokenAt text place = some ⟨place, stop⟩) :
    row pattern make text place =
      token ⟨place, stop⟩ (make ((⟨place, stop⟩ : Span).slice text)) ::
        row pattern make text stop := by
  rw [row_of_find (Pattern.find_of_tokenAt found), plainUnlessEmpty_self, List.nil_append]

end Piece

end Highlight
