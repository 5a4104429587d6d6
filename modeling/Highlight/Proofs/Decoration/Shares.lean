import Highlight.Proofs.Decoration.Leaves
import Highlight.Proofs.Document.Positions
import Mathlib.Data.Nat.PSub

/-!
# How the fragments of a block share a leaf

Where the lines of a block are tokenized together, a leaf can lie over several of them. Each
fragment gets what lies inside its bounds, as places in its own text (`Block.Gets`).

The bounds of a fragment begin at its offset, less the line breaks before it. In a block with
different keys this is the length of the fragments before (`Block.bounds?_of_getElem?`), so the
bounds of all fragments lie end to end from the beginning of the contents to their end
(`Block.endToEnd_boundsFrom`). Those of empty fragments are among them, so two fragments can begin
at the same position. Still a position lies in only one of several bounds that lie end to end
(`Span.EndToEnd.exists_unique_around`), and what each of them has in common with a span adds up to
what all of them have in common with it (`Span.EndToEnd.sum_lengths`).

So no position of a leaf is lost, none is given to two fragments, and no other is given to any
(`Block.shares_exact`). What a fragment gets is worked out without a number that falls below zero,
whatever the bounds and the leaf are (`Span.checkedWithin?_eq`).
-/

namespace Highlight

set_option autoImplicit false

/-! ## What bounds and a span have in common -/

namespace Span

/-- The part of a span inside some bounds, worked out with differences that are checked. It comes to
nothing if one of them falls below zero. -/
def checkedWithin? (bounds span : Span) : Option (Option Span) :=
  let start := max span.start bounds.start
  let stop := min span.stop bounds.stop
  if start < stop then do
    let first ← start.psub bounds.start
    let last ← stop.psub bounds.start
    some (some ⟨first, last⟩)
  else some none

/-- **No difference falls below zero**, even if the bounds or the span are inverted. -/
theorem checkedWithin?_eq (bounds span : Span) :
    bounds.checkedWithin? span = some (bounds.within? span) := by
  simp only [checkedWithin?, within?]
  split
  · next proper =>
    have first : bounds.start ≤ max span.start bounds.start := Nat.le_max_right _ _
    have last : bounds.start ≤ min span.stop bounds.stop :=
      Nat.le_trans first (Nat.le_of_lt proper)
    rw [Nat.psub_eq_sub first, Nat.psub_eq_sub last]
    rfl
  · rfl

/-- A part of a span is never empty. -/
theorem proper_of_within? {bounds span part : Span} (isPart : bounds.within? span = some part) :
    part.start < part.stop := by
  simp only [within?] at isPart
  split at isPart
  · next proper =>
    cases isPart
    show max span.start bounds.start - bounds.start < min span.stop bounds.stop - bounds.start
    omega
  · cases isPart

/-- The part is as long as the stretch that the bounds and the span have in common. -/
theorem length_within? (bounds span : Span) :
    (bounds.within? span).elim 0 length =
      min span.stop bounds.stop - max span.start bounds.start := by
  simp only [within?]
  split
  · next proper =>
    show min span.stop bounds.stop - bounds.start - (max span.start bounds.start - bounds.start) = _
    omega
  · next empty => exact (Nat.sub_eq_zero_of_le (Nat.not_lt.1 empty)).symm

/-! ## Spans that lie end to end -/

/-- Spans lie end to end from one place to another. Empty ones can be among them. -/
inductive EndToEnd : Nat → List Span → Nat → Prop where
  | nil (place : Nat) : EndToEnd place [] place
  | cons {start stop : Nat} {span : Span} {rest : List Span} (begins : span.start = start)
      (ordered : start ≤ span.stop) (later : EndToEnd span.stop rest stop) :
      EndToEnd start (span :: rest) stop

namespace EndToEnd

variable {start stop : Nat} {spans : List Span} {span : Span}

theorem le (row : EndToEnd start spans stop) : start ≤ stop := by
  induction row with
  | nil place => exact Nat.le_refl place
  | cons begins ordered later ih => exact Nat.le_trans ordered ih

/-- No span begins before the row does. -/
theorem le_start (row : EndToEnd start spans stop) (member : span ∈ spans) :
    start ≤ span.start := by
  induction row with
  | nil place => exact absurd member List.not_mem_nil
  | cons begins ordered later ih =>
      rcases List.mem_cons.1 member with rfl | behind
      · exact Nat.le_of_eq begins.symm
      · exact Nat.le_trans ordered (ih behind)

/-- **A position lies in only one of several spans that lie end to end.** -/
theorem exists_unique_around (row : EndToEnd start spans stop) {position : Nat}
    (low : start ≤ position) (high : position < stop) :
    ∃! index : Nat, ∃ span, spans[index]? = some span ∧
      span.start ≤ position ∧ position < span.stop := by
  induction row with
  | nil place => exact absurd high (Nat.not_lt.2 low)
  | @cons start stop span rest begins ordered later ih =>
      by_cases inside : position < span.stop
      · refine ⟨0, ⟨span, rfl, begins ▸ low, inside⟩, ?_⟩
        rintro (_ | index) ⟨other, at', before, _⟩
        · rfl
        · have behind := later.le_start (List.mem_of_getElem? at')
          exact absurd (Nat.le_trans behind before) (Nat.not_le.2 inside)
      · obtain ⟨index, around, only⟩ := ih (Nat.not_lt.1 inside) high
        refine ⟨index + 1, around, ?_⟩
        rintro (_ | other) ⟨first, at', before, after⟩
        · cases at'
          exact absurd after inside
        · exact congrArg Nat.succ (only other ⟨first, at', before, after⟩)

/-- **The parts of a span inside several bounds that lie end to end** are together as long as the
stretch that the span has in common with all of the bounds. -/
theorem sum_lengths (row : EndToEnd start spans stop) (span : Span) :
    ((spans.filterMap (·.within? span)).map length).sum =
      min span.stop stop - max span.start start := by
  induction row with
  | nil place =>
      show 0 = _
      omega
  | @cons start stop bounds rest begins ordered later ih =>
      have here := bounds.length_within? span
      have onward := later.le
      cases isPart : bounds.within? span with
      | none =>
          have parts : (bounds :: rest).filterMap (·.within? span) =
              rest.filterMap (·.within? span) := List.filterMap_cons_none isPart
          rw [isPart, Option.elim_none] at here
          rw [parts, ih]
          omega
      | some part =>
          have parts : (bounds :: rest).filterMap (·.within? span) =
              part :: rest.filterMap (·.within? span) := List.filterMap_cons_some isPart
          rw [isPart, Option.elim_some] at here
          rw [parts, List.map_cons, List.sum_cons, ih, here]
          omega

end EndToEnd

end Span

namespace Block

/-! ## The bounds of the fragments -/

/-- The bounds of a fragment among the leaves of its block's joined lines. -/
def bounds? (b : Block) (f : Fragment) : Option Span := do
  let index ← b.indexOf? f.key
  let offset ← b.offsetOf? f.key
  some (.inBlock offset index f.length)

/-- The bounds of some fragments whose contents stand one behind the other from a position on. -/
def boundsFrom (start : Nat) : List Fragment → List Span
  | [] => []
  | f :: rest => ⟨start, start + f.length⟩ :: boundsFrom (start + f.length) rest

variable {b : Block} {f : Fragment} {span bounds : Span} {index position place : Nat}

/-- These are the bounds that a fragment is decorated with. -/
theorem bounds?_eq_basis (found : b.indexOf? f.key = some index) {d : Decorator}
    (joined : d.options.mode = .joined) :
    b.bounds? f = some (d.basis f b index).1.bounds := by
  simp only [bounds?, offsetOf?, found, Decorator.basis, joined]
  rfl

/-- Bounds are as long as the fragment. -/
theorem stop_of_bounds? (areBounds : b.bounds? f = some bounds) :
    bounds.stop = bounds.start + f.length := by
  obtain ⟨index, _, rest⟩ := Option.bind_eq_some_iff.1 areBounds
  obtain ⟨offset, _, isInBlock⟩ := Option.bind_eq_some_iff.1 rest
  cases isInBlock
  rfl

theorem endToEnd_boundsFrom (start : Nat) (fragments : List Fragment) :
    Span.EndToEnd start (boundsFrom start fragments) (start + lengthOf fragments) := by
  induction fragments generalizing start with
  | nil => exact .nil start
  | cons f rest ih =>
      have later := ih (start + f.length)
      rw [Nat.add_assoc] at later
      exact .cons rfl (Nat.le_add_right _ _) later

theorem getElem?_boundsFrom (start index : Nat) (fragments : List Fragment) :
    (boundsFrom start fragments)[index]? = fragments[index]?.map fun f =>
      ⟨start + lengthOf (fragments.take index),
        start + lengthOf (fragments.take index) + f.length⟩ := by
  induction fragments generalizing start index with
  | nil => rfl
  | cons f rest ih =>
      cases index with
      | zero => rfl
      | succ index =>
          rw [boundsFrom, List.getElem?_cons_succ, ih, List.getElem?_cons_succ,
            List.take_succ_cons, lengthOf, Nat.add_assoc]

section Distinct

variable (distinct : b.keys.Nodup)
include distinct

/-- **The line breaks before a fragment are taken off its offset exactly.** What is left is the
length of the fragments before. -/
theorem bounds?_of_getElem? (at' : b.fragments[index]? = some f) :
    b.bounds? f = (boundsFrom 0 b.fragments)[index]? := by
  have found := indexOf?_of_getElem? distinct at'
  have exact' : b.offsetAt index - index = 0 + lengthOf (b.fragments.take index) := by
    rw [offsetAt, Nat.add_sub_cancel, Nat.zero_add]
  rw [getElem?_boundsFrom, at', Option.map_some, ← exact']
  simp only [bounds?, offsetOf?, found]
  rfl

/-- The bounds of the fragments are those of contents that stand one behind the other. -/
theorem map_bounds? : b.fragments.map b.bounds? = (boundsFrom 0 b.fragments).map some := by
  apply List.ext_getElem?
  intro index
  rw [List.getElem?_map, List.getElem?_map]
  cases at' : b.fragments[index]? with
  | none => rw [getElem?_boundsFrom, at', Option.map_none, Option.map_none, Option.map_none]
  | some f =>
      rw [Option.map_some, bounds?_of_getElem? distinct at', getElem?_boundsFrom, at']
      rfl

end Distinct

/-! ## What the fragments get -/

/-- The part of a leaf that a fragment gets, counted from the fragment's beginning. -/
def share? (b : Block) (span : Span) (f : Fragment) : Option Span := do
  let bounds ← b.bounds? f
  bounds.within? span

/-- A fragment gets a position of a leaf as a place in its own text. -/
def Gets (b : Block) (span : Span) (f : Fragment) (position place : Nat) : Prop :=
  ∃ bounds share, b.bounds? f = some bounds ∧ b.share? span f = some share ∧
    position = bounds.start + place ∧ share.start ≤ place ∧ place < share.stop

theorem share?_of_bounds? (areBounds : b.bounds? f = some bounds) :
    b.share? span f = bounds.within? span := by
  rw [share?, areBounds]
  rfl

/-- A fragment gets the positions of a leaf inside its bounds. -/
theorem gets_iff :
    b.Gets span f position place ↔
      ∃ bounds, b.bounds? f = some bounds ∧ position = bounds.start + place ∧
        position < bounds.stop ∧ span.start ≤ position ∧ position < span.stop := by
  constructor
  · rintro ⟨bounds, share, areBounds, isShare, rfl, low, high⟩
    rw [share?_of_bounds? areBounds] at isShare
    have covered := (Span.exists_within?_iff bounds span place).1 ⟨share, isShare, low, high⟩
    exact ⟨bounds, areBounds, rfl, covered⟩
  · rintro ⟨bounds, areBounds, rfl, covered⟩
    obtain ⟨share, isShare, low, high⟩ := (Span.exists_within?_iff bounds span place).2 covered
    rw [← share?_of_bounds? areBounds] at isShare
    exact ⟨bounds, share, areBounds, isShare, rfl, low, high⟩

/-- A fragment gets positions of the leaf only, at places of its own text. -/
theorem inside_of_gets (gets : b.Gets span f position place) :
    place < f.length ∧ span.start ≤ position ∧ position < span.stop := by
  obtain ⟨bounds, areBounds, isPlace, before, covered⟩ := gets_iff.1 gets
  rw [isPlace, stop_of_bounds? areBounds] at before
  exact ⟨Nat.lt_of_add_lt_add_left before, covered⟩

section Distinct

variable (distinct : b.keys.Nodup)
include distinct

/-- The fragment at an index gets a position of the leaf if its bounds hold it. -/
theorem exists_gets_iff (low : span.start ≤ position) (high : position < span.stop) :
    (∃ f place, b.fragments[index]? = some f ∧ place < f.length ∧ b.Gets span f position place) ↔
      ∃ bounds, (boundsFrom 0 b.fragments)[index]? = some bounds ∧
        bounds.start ≤ position ∧ position < bounds.stop := by
  constructor
  · rintro ⟨f, place, at', _, gets⟩
    obtain ⟨bounds, areBounds, isPlace, before, _⟩ := gets_iff.1 gets
    have begins : bounds.start ≤ position := isPlace ▸ Nat.le_add_right _ _
    exact ⟨bounds, (bounds?_of_getElem? distinct at').symm.trans areBounds, begins, before⟩
  · rintro ⟨bounds, at', begins, before⟩
    obtain ⟨f, isF, _⟩ := Option.map_eq_some_iff.1 ((getElem?_boundsFrom 0 index _).symm.trans at')
    have areBounds := (bounds?_of_getElem? distinct isF).trans at'
    have isPlace := (Nat.add_sub_cancel' begins).symm
    have gets : b.Gets span f position (position - bounds.start) :=
      gets_iff.2 ⟨bounds, areBounds, isPlace, before, low, high⟩
    exact ⟨f, _, isF, (inside_of_gets gets).1, gets⟩

/-- The shares of the fragments are the parts of the leaf inside their bounds. -/
theorem filterMap_share? (span : Span) :
    b.fragments.filterMap (b.share? span) =
      (boundsFrom 0 b.fragments).filterMap (·.within? span) := by
  have shares := congrArg (List.filterMap (·.bind (·.within? span))) (map_bounds? distinct)
  rwa [List.filterMap_map, List.filterMap_map] at shares

end Distinct

/-- **The fragments of a block share a leaf exactly.** In every block that a program comes to, each
fragment has bounds, which are those that it is decorated with where lines are joined. Of a leaf in
the contents each position goes to the fragment at one index and at no other, to a place of its
text. Nothing else goes to any fragment, and so the shares are together as long as the leaf.

Whatever bounds and a leaf are, no difference falls below zero where they are compared, and what
they have in common is given only if it is not empty. -/
theorem shares_exact {edits : List Edit} {b : Block}
    (live : b ∈ (Pool.empty.run edits).blocks) :
    (∀ f ∈ b.fragments, ∃ index, b.indexOf? f.key = some index ∧
      ∀ d : Decorator, d.options.mode = .joined →
        b.bounds? f = some (d.basis f b index).1.bounds) ∧
    (∀ span : Span, span.start ≤ span.stop → span.stop ≤ b.contentLength →
      (∀ position, span.start ≤ position → position < span.stop →
        ∃! index : Nat, ∃ f place, b.fragments[index]? = some f ∧ place < f.length ∧
          b.Gets span f position place) ∧
      (∀ f ∈ b.fragments, ∀ position place, b.Gets span f position place →
        place < f.length ∧ span.start ≤ position ∧ position < span.stop) ∧
      ((b.fragments.filterMap (b.share? span)).map Span.length).sum = span.length) ∧
    ∀ bounds span : Span, bounds.checkedWithin? span = some (bounds.within? span) ∧
      ∀ part, bounds.within? span = some part → part.start < part.stop := by
  have distinct : b.keys.Nodup := ((Pool.sound_empty.run edits).given b live).distinct
  have row := endToEnd_boundsFrom 0 b.fragments
  rw [Nat.zero_add, ← contentLength] at row
  refine ⟨?_, ?_, ?_⟩
  · intro f member
    obtain ⟨index, found⟩ := exists_indexOf?_of_mem (List.mem_map_of_mem member)
    exact ⟨index, found, fun d joined => bounds?_eq_basis found joined⟩
  · intro span ordered inside
    refine ⟨?_, ?_, ?_⟩
    · intro position low high
      simp only [exists_gets_iff distinct low high]
      exact row.exists_unique_around (Nat.zero_le _) (Nat.lt_of_lt_of_le high inside)
    · intro f _ position place gets
      exact inside_of_gets gets
    · rw [filterMap_share? distinct, row.sum_lengths, Nat.min_eq_left inside,
        Nat.max_eq_left (Nat.zero_le _), Span.length]
  · intro bounds span
    exact ⟨bounds.checkedWithin?_eq span, fun _ isPart => Span.proper_of_within? isPart⟩

/-- A leaf over an empty line that was put in later. Its last position is the first of the line
behind, whose bounds begin where those of the empty line do. -/
theorem shares_exact_over_empty_line :
    let edits : List Edit := [.code "rust" "ab\ncd", .insert 0 1 ""]
    ∃ b ∈ (Pool.empty.run edits).blocks, 3 ≤ b.contentLength ∧
      b.fragments.map b.bounds? = [some ⟨0, 2⟩, some ⟨2, 2⟩, some ⟨2, 4⟩] ∧
      (∃! index : Nat, ∃ f place, b.fragments[index]? = some f ∧ place < f.length ∧
        b.Gets ⟨1, 3⟩ f 2 place) ∧
      ((b.fragments.filterMap (b.share? ⟨1, 3⟩)).map Span.length).sum = 2 := by
  intro edits
  let b : Block := { (Block.code "rust" "" .full).1 with
    fragments := [⟨⟨3⟩, ⟨"ab", by decide⟩, []⟩, ⟨⟨5⟩, ⟨"", by decide⟩, []⟩,
      ⟨⟨4⟩, ⟨"cd", by decide⟩, []⟩]
    revision := ⟨6⟩ }
  have live : b ∈ (Pool.empty.run edits).blocks := by decide
  have inside : 3 ≤ b.contentLength := by decide
  obtain ⟨_, shares, _⟩ := shares_exact live
  obtain ⟨single, _, lengths⟩ := shares ⟨1, 3⟩ (by decide) inside
  exact ⟨b, live, inside, by decide, single 2 (by decide) (by decide), lengths⟩

end Block

end Highlight
