import Highlight.Proofs.Pattern.Search

/-!
# Searching in bytes

A text can be searched by the offsets of its bytes. Then the search has an offset as its state,
and goes round a loop that need not end: it looks for the leftmost match from the offset on, and
where the token of the match is empty it goes on behind the first character of what is left of
the text from the start of the match. What is left has to be cut out of the text, and that can be
refused, as a range of bytes may cut a character in two.

A loop is written out by what one round does (`loop?`). It comes to nothing if a round is refused
something and if it is not done within a number of rounds. That it ends within them is shown once
for all loops, with a measure of the work that is left (`loop?_eq_some`).

The search is never refused anything. From any place of a text it ends within one round for each
character and one more, and it finds the bytes of the span that is found in characters
(`Pattern.searchBytes?_byteOffset`).
-/

namespace Highlight

set_option autoImplicit false

/-! ## Loops -/

/-- Goes round a loop, at most so many times. A round is refused something, or leads to the state
of the next round, or ends the loop. -/
def loop? {σ α : Type} (round : σ → Option (σ ⊕ α)) : Nat → σ → Option α
  | 0, _ => none
  | count + 1, state =>
      match round state with
      | none => none
      | some (.inl next) => loop? round count next
      | some (.inr result) => some result

/-- A round ends the loop with the result that is due, or it leaves less work and the result is
still due. -/
def Advances {σ α : Type} (due : σ → Nat → α → Prop) (work : Nat) (result : α)
    (outcome : Option (σ ⊕ α)) : Prop :=
  outcome = some (.inr result) ∨
    ∃ next less, outcome = some (.inl next) ∧ due next less result ∧ less < work

/-- **A loop with a measure ends** with the result that is due, within as many rounds as there is
work and one more, if every round advances. -/
theorem loop?_eq_some {σ α : Type} {round : σ → Option (σ ⊕ α)} {due : σ → Nat → α → Prop}
    (step : ∀ state work result, due state work result → Advances due work result (round state))
    {count work : Nat} {state : σ} {result : α} (known : due state work result)
    (enough : work < count) : loop? round count state = some result := by
  induction count generalizing state work with
  | zero => exact absurd enough (Nat.not_lt_zero work)
  | succ count ih =>
      rw [loop?]
      obtain ends | ⟨next, less, goesOn, stillKnown, shrinks⟩ := step state work result known
      · rw [ends]
      · rw [goesOn]
        exact ih stillKnown (Nat.lt_of_lt_of_le shrinks (Nat.le_of_lt_succ enough))

/-! ## The search -/

namespace Pattern

variable {p : Pattern} {text : Array Char} {place : Nat} {m : Match}

/-- One round of the search, at an offset. -/
def searchRound (p : Pattern) (text : Array Char) (offset : Nat) :
    Option (Nat ⊕ Option Span) :=
  if offset < byteLength text then do
    let place ← borderAt? text offset
    match p.leftmost? text place with
    | none => some (.inr none)
    | some m =>
        let found := m.span.inBytes text
        if found.isEmpty then do
          let start := byteOffset text m.whole.start
          let rest ← sliceBytes? text ⟨start, byteLength text⟩
          match rest[0]? with
          | none => some (.inr none)
          | some c => some (.inl (start + c.utf8Size))
        else some (.inr (some found))
  else some (.inr none)

/-- Searches a text from an offset on. -/
def searchBytes? (p : Pattern) (text : Array Char) (offset : Nat) : Option (Option Span) :=
  loop? (p.searchRound text) (text.size + 1) offset

/-- What is due at an offset: the bytes of the span that is found from its place on. -/
def SearchDue (p : Pattern) (text : Array Char) (offset work : Nat) (result : Option Span) :
    Prop :=
  ∃ place, place ≤ text.size ∧ offset = byteOffset text place ∧ work = text.size - place ∧
    result = (p.search text place).map (Span.inBytes text)

/-- The leftmost match begins inside the text, and so its token ends there. -/
theorem leftmost?_inside (found : p.leftmost? text place = some m) (inside : place ≤ text.size) :
    m.whole.start ≤ text.size ∧ m.span.stop ≤ text.size := by
  obtain ⟨start, among, here⟩ := List.exists_of_findSome?_eq_some found
  obtain ⟨rfl, _, ends, _, within⟩ := matchAt_bounds here
  have range := List.mem_range'_1.1 among
  omega

/-- The rest of a text from a place on begins with the character at the place. -/
theorem getElem?_zero_slice_rest :
    ((⟨place, text.size⟩ : Span).slice text)[0]? = text[place]? := by
  simp only [Span.slice, Array.getElem?_extract, Nat.add_zero]
  split
  · rfl
  · exact (Array.getElem?_eq_none (by omega)).symm

/-- Every round of the search advances. -/
theorem advances_searchRound (offset work : Nat) (result : Option Span)
    (known : p.SearchDue text offset work result) :
    Advances (p.SearchDue text) work result (p.searchRound text offset) := by
  obtain ⟨place, inside, rfl, rfl, rfl⟩ := known
  rw [searchRound, search]
  by_cases more : place < text.size
  · have moreBytes : byteOffset text place < byteLength text := byteOffset_lt more (Nat.le_refl _)
    simp only [if_pos more, if_pos moreBytes, borderAt?_byteOffset inside, Option.bind_eq_bind,
      Option.bind_some]
    cases found : p.leftmost? text place with
    | none => exact Or.inl rfl
    | some m =>
        obtain ⟨starts, ends⟩ := leftmost?_inside found inside
        have ahead := (leftmost?_eq_some found).1
        simp only [isEmpty_inBytes ends]
        by_cases empty : m.span.isEmpty = true
        · let rest : Span := ⟨m.whole.start, text.size⟩
          have range : (⟨byteOffset text m.whole.start, byteLength text⟩ : Span) =
              rest.inBytes text := rfl
          have cut : sliceBytes? text (rest.inBytes text) = some (rest.slice text) :=
            sliceBytes?_inBytes starts (Nat.le_refl _)
          simp only [if_pos empty, range, cut, Option.bind_some, rest, getElem?_zero_slice_rest]
          cases first : text[m.whole.start]? with
          | none =>
              have past : ¬ m.whole.start + 1 < text.size := by
                have := Array.getElem?_eq_none_iff.1 first
                omega
              rw [search, if_neg past]
              exact Or.inl rfl
          | some c =>
              have behind : m.whole.start + 1 ≤ text.size :=
                (Array.getElem?_eq_some_iff.1 first).1
              refine Or.inr ⟨_, text.size - (m.whole.start + 1), rfl, ?_, by omega⟩
              exact ⟨m.whole.start + 1, behind, (byteOffset_succ first).symm, rfl, rfl⟩
        · simp only [if_neg empty]
          exact Or.inl rfl
  · have noMoreBytes : ¬ byteOffset text place < byteLength text :=
      mt (byteOffset_lt_iff (Nat.le_refl _)).1 more
    rw [if_neg more, if_neg noMoreBytes]
    exact Or.inl rfl

/-- **A search in bytes ends**, without being refused anything, and finds the bytes of what is
found in characters. -/
theorem searchBytes?_byteOffset (inside : place ≤ text.size) :
    p.searchBytes? text (byteOffset text place) =
      some ((p.find text place).map (Span.inBytes text)) := by
  rw [← search_eq_find]
  have enough : text.size - place < text.size + 1 := by omega
  exact loop?_eq_some advances_searchRound ⟨place, inside, rfl, rfl, rfl⟩ enough

end Pattern

end Highlight
