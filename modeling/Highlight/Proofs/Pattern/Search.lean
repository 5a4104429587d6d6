import Highlight.Grammar.Rule
import Highlight.Proofs.Pattern.Preference
import Highlight.Proofs.Text.Bytes

/-!
# The first usable match

A place of a text is usable for a pattern where the pattern matches with a token that has
text in it. A rule finds the token of the first usable place from a place on, and nothing
where no place is usable (`Rule.find_first_usable`).

A matcher offers less than that: the match with the least start from a place on, whether or
not its token is empty (`Pattern.leftmost?`). The search can be made of such matches by a
loop. A match with an empty token is passed over, and the loop goes on one character behind
the start of that match, even if this is inside of it (`Pattern.search`). Every round begins
further on, so the loop ends; and it never passes a usable place, because up to the start of
the leftmost match nothing matches at all (`Pattern.search_eq_find`).

Places count characters. In bytes what is found lies ahead in the same way, as places and byte
offsets are in the same order (`byteOffset_lt`).
-/

namespace Highlight

set_option autoImplicit false

variable {text : Array Char} {place other : Nat}

namespace Pattern

variable {p : Pattern} {range : Span} {m : Match}

/-! ## Usable places -/

/-- The pattern matches at a place and its token is a stretch with text in it. -/
def UsableAt (p : Pattern) (text : Array Char) (place : Nat) (range : Span) : Prop :=
  ∃ m, p.matchAt text place = some m ∧ m.span = range ∧ range.start < range.stop

/-- The first usable place from a place on, and the token there. -/
structure FirstUsable (p : Pattern) (text : Array Char) (start first : Nat) (range : Span) :
    Prop where
  behind : start ≤ first
  usable : p.UsableAt text first range
  least : ∀ place other, start ≤ place → p.UsableAt text place other → first ≤ place

theorem usableAt_iff : p.UsableAt text place range ↔ p.tokenAt text place = some range := by
  rw [UsableAt, tokenAt]
  cases p.matchAt text place with
  | none => simp only [reduceCtorEq, false_and, exists_false]
  | some m =>
      simp only [Option.some.injEq, exists_eq_left']
      split
      · next empty =>
        rw [Span.isEmpty_iff] at empty
        refine iff_of_false ?_ (Option.some_ne_none _).symm
        rintro ⟨rfl, proper⟩
        omega
      · next proper =>
        rw [Bool.not_eq_true, Span.isEmpty_eq_false_iff] at proper
        rw [Option.some.injEq]
        exact and_iff_left_of_imp fun same => same ▸ proper

theorem tokenAt_eq_none_iff :
    p.tokenAt text place = none ↔ ∀ range, ¬ p.UsableAt text place range := by
  simp only [usableAt_iff, Option.eq_none_iff_forall_ne_some, ne_eq]

theorem find_eq_none_iff_usable {start : Nat} :
    p.find text start = none ↔
      ∀ place range, start ≤ place → ¬ p.UsableAt text place range := by
  rw [find_eq_none_iff]
  refine forall_congr' fun place => ?_
  rw [tokenAt_eq_none_iff]
  exact ⟨fun all range low => all low range, fun all low range => all range low⟩

/-- **A search finds the token of the first usable place.** -/
theorem find_eq_some_iff_firstUsable {start : Nat} :
    p.find text start = some range ↔ ∃ first, p.FirstUsable text start first range := by
  rw [find_eq_some_iff]
  refine exists_congr fun first => ?_
  rw [← usableAt_iff]
  constructor
  · rintro ⟨low, usable, before⟩
    refine ⟨low, usable, fun place other low usable => Nat.le_of_not_lt fun early => ?_⟩
    exact tokenAt_eq_none_iff.1 (before place low early) other usable
  · rintro ⟨low, usable, least⟩
    refine ⟨low, usable, fun place low early => tokenAt_eq_none_iff.2 fun other usable => ?_⟩
    exact absurd (least place other low usable) (Nat.not_le.2 early)

/-! ## The leftmost match -/

/-- The match with the least start at or behind a place, up to the end of the text. -/
def leftmost? (p : Pattern) (text : Array Char) (place : Nat) : Option Match :=
  (List.range' place (text.size + 1 - place)).findSome? (p.matchAt text)

theorem leftmost?_eq_none (nothing : p.leftmost? text place = none) (low : place ≤ other) :
    p.tokenAt text other = none := by
  rcases Nat.lt_or_ge other text.size with inside | past
  · have among : other ∈ List.range' place (text.size + 1 - place) :=
      List.mem_range'_1.2 ⟨low, by omega⟩
    rw [tokenAt, List.findSome?_eq_none_iff.1 nothing other among]
  · exact tokenAt_of_size_le past

theorem leftmost?_eq_some (found : p.leftmost? text place = some m) :
    place ≤ m.whole.start ∧ p.matchAt text m.whole.start = some m ∧
      ∀ i, place ≤ i → i < m.whole.start → p.matchAt text i = none := by
  rw [leftmost?] at found
  generalize text.size + 1 - place = count at found
  induction count generalizing place with
  | zero => cases found
  | succ count ih =>
      rw [List.range'_succ, List.findSome?_cons] at found
      cases here : p.matchAt text place with
      | some first =>
          rw [here] at found
          cases found
          obtain rfl := (matchAt_bounds here).1
          exact ⟨Nat.le_refl _, here, fun i low early => absurd low (Nat.not_le.2 early)⟩
      | none =>
          rw [here] at found
          obtain ⟨low, at', before⟩ := ih found
          refine ⟨by omega, at', fun i after early => ?_⟩
          rcases Nat.eq_or_lt_of_le after with rfl | later
          · exact here
          · exact before i later early

/-! ## The loop -/

/-- The search by leftmost matches: one with an empty token is passed over, and the search
goes on one character behind its start. -/
def search (p : Pattern) (text : Array Char) (place : Nat) : Option Span :=
  if place < text.size then
    match _found : p.leftmost? text place with
    | none => none
    | some m => if m.span.isEmpty then search p text (m.whole.start + 1) else some m.span
  else none
termination_by text.size - place
decreasing_by
  have := leftmost?_eq_some _found
  omega

/-- Places without a token can be passed over. -/
theorem find_eq_find_of_le (le : place ≤ other)
    (nothing : ∀ i, place ≤ i → i < other → p.tokenAt text i = none) :
    p.find text place = p.find text other := by
  induction le with
  | refl => rfl
  | @step other le ih =>
      rw [ih fun i low high => nothing i low (Nat.lt_succ_of_lt high)]
      rcases Nat.lt_or_ge other text.size with inside | past
      · exact find_succ inside (nothing other le (Nat.lt_succ_self other))
      · rw [find_eq_none_iff.2 fun i low => tokenAt_of_size_le (Nat.le_trans past low),
          find_eq_none_iff.2 fun i low => tokenAt_of_size_le (by omega)]

/-- **The loop over leftmost matches finds the token of the first usable place.** -/
theorem search_eq_find : p.search text place = p.find text place := by
  fun_induction search p text place with
  | case1 place inside nothing =>
      exact (find_eq_none_iff.2 fun i low => leftmost?_eq_none nothing low).symm
  | case2 place inside m found empty ih =>
      obtain ⟨low, at', before⟩ := leftmost?_eq_some found
      rw [ih]
      refine (find_eq_find_of_le (by omega) fun i after early => ?_).symm
      rcases Nat.lt_succ_iff_lt_or_eq.1 early with earlier | rfl
      · rw [tokenAt, before i after earlier]
      · rw [tokenAt, at']
        exact if_pos empty
  | case3 place inside m found proper =>
      obtain ⟨low, at', before⟩ := leftmost?_eq_some found
      have token : p.tokenAt text m.whole.start = some m.span := by
        rw [tokenAt, at']
        exact if_neg proper
      rw [find_eq_find_of_le low fun i after early => by rw [tokenAt, before i after early],
        find_of_tokenAt token]
  | case4 place past =>
      refine (find_eq_none_iff.2 fun i low => tokenAt_of_size_le ?_).symm
      omega

end Pattern

/-! ## What a rule finds -/

/-- **A rule finds the first usable match.** From any place, also one past the end, its search
comes to what the loop over leftmost matches ends with. That is the token of the first usable
place, which lies ahead and has text in it, in characters as in bytes. If no place is usable
there is nothing to find, and nothing from any later place. -/
theorem Rule.find_first_usable (rule : Rule) (text : Array Char) (start : Nat) :
    rule.find text start = rule.pattern.search text start ∧
      (∀ range, rule.find text start = some range ↔
        ∃ first, rule.pattern.FirstUsable text start first range) ∧
      (rule.find text start = none ↔
        ∀ place range, start ≤ place → ¬ rule.pattern.UsableAt text place range) ∧
      (∀ range, rule.find text start = some range →
        (start ≤ range.start ∧ range.start < range.stop ∧ range.stop ≤ text.size) ∧
        byteOffset text start ≤ byteOffset text range.start ∧
        byteOffset text range.start < byteOffset text range.stop) ∧
      (rule.find text start = none → ∀ later, start ≤ later → rule.find text later = none) := by
  refine ⟨Pattern.search_eq_find.symm, fun range => Pattern.find_eq_some_iff_firstUsable,
    Pattern.find_eq_none_iff_usable, fun range found => ?_, fun nothing later after => ?_⟩
  · have bounds := Pattern.find_bounds found
    exact ⟨bounds, byteOffset_le bounds.1, byteOffset_lt bounds.2.1 bounds.2.2⟩
  · rw [find, Pattern.find_eq_none_iff] at nothing ⊢
    exact fun i low => nothing i (Nat.le_trans after low)

/-- The match at the first `a` stands for nothing, and the loop goes on inside of it. -/
example :
    Pattern.search (.cat (.char 'a') (.token (.many (.char 'b')))) #['é', 'a', 'a', 'b'] 0 =
      some ⟨3, 4⟩ := by
  cbv

end Highlight
