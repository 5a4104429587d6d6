import Highlight.Proofs.Pattern.Preference

/-!
# Matching behind other text

A pattern that asks for no condition on a place sees nothing of what stands before the place
it starts from. Behind some other text it leads to the same places, moved along, in the same
order of preference and with the same tokens (`Pattern.advance_append`). So what it finds
there is found in the text taken by itself (`Pattern.find_append`).

Moving all places leaves alone which of them are equal and which come first, and these are
all that lists of arrivals are made by (`distinct_shift`, `gather_shift`). A repetition is
given more fuel in the longer text. It never runs out of it in either, because every round
that does not stay leads on, and none begin twice at a place (`Pattern.explore_shift`).
-/

namespace Highlight

set_option autoImplicit false

/-! ## Arrivals moved along -/

/-- An arrival with all its positions moved to the right. -/
def Arrival.shift (a : Arrival) (offset : Nat) : Arrival :=
  ⟨offset + a.place, a.token.map (·.shift offset)⟩

/-- A set with its places moved to the right. -/
def PlaceSet.shift (s : PlaceSet) (offset : Nat) : PlaceSet := ⟨offset + s.base, s.flags⟩

/-- Some arrivals moved to the right. -/
def shiftAll (offset : Nat) (arrivals : List Arrival) : List Arrival :=
  arrivals.map (·.shift offset)

/-- What a repetition has explored, with its places moved to the right. -/
def Pattern.Explored.shift (e : Pattern.Explored) (offset : Nat) : Pattern.Explored :=
  ⟨e.begun.shift offset, e.ended.shift offset, e.stops.shift offset, shiftAll offset e.found⟩

section Shift

variable (offset : Nat)

@[simp]
theorem Arrival.place_shift (a : Arrival) : (a.shift offset).place = offset + a.place := rfl

@[simp]
theorem shiftAll_nil : shiftAll offset [] = [] := rfl

@[simp]
theorem shiftAll_cons (a : Arrival) (rest : List Arrival) :
    shiftAll offset (a :: rest) = a.shift offset :: shiftAll offset rest := rfl

theorem shiftAll_append (first second : List Arrival) :
    shiftAll offset (first ++ second) = shiftAll offset first ++ shiftAll offset second :=
  List.map_append

theorem shiftAll_reverse (arrivals : List Arrival) :
    shiftAll offset arrivals.reverse = (shiftAll offset arrivals).reverse := List.map_reverse

theorem PlaceSet.contains_shift (s : PlaceSet) (place : Nat) :
    (s.shift offset).contains (offset + place) = s.contains place := by
  simp only [contains, shift, Nat.add_le_add_iff_left, Nat.add_sub_add_left]

theorem PlaceSet.insert_shift (s : PlaceSet) (place : Nat) :
    (s.shift offset).insert (offset + place) = (s.insert place).shift offset := by
  simp only [insert, shift, Nat.add_le_add_iff_left, Nat.add_sub_add_left]
  split <;> rfl

theorem leastPlace_shift (low : Nat) (arrivals : List Arrival) :
    leastPlace (offset + low) (shiftAll offset arrivals) = offset + leastPlace low arrivals := by
  induction arrivals generalizing low with
  | nil => rfl
  | cons a rest ih =>
      simp only [shiftAll_cons, leastPlace, Arrival.place_shift]
      rw [Nat.add_min_add_left, ih]

theorem ascends_shift (arrivals : List Arrival) :
    ascends (shiftAll offset arrivals) = ascends arrivals := by
  fun_induction ascends arrivals with
  | case1 a b rest ih =>
      simp only [shiftAll_cons] at ih
      simp only [shiftAll_cons, ascends, ih, Arrival.place_shift, Nat.add_lt_add_iff_left]
  | case2 arrivals short =>
      match arrivals, short with
      | [], _ => rfl
      | [_], _ => rfl
      | a :: b :: rest, short => exact (short a b rest rfl).elim

theorem descends_shift (arrivals : List Arrival) :
    descends (shiftAll offset arrivals) = descends arrivals := by
  fun_induction descends arrivals with
  | case1 a b rest ih =>
      simp only [shiftAll_cons] at ih
      simp only [shiftAll_cons, descends, ih, Arrival.place_shift, Nat.add_lt_add_iff_left]
  | case2 arrivals short =>
      match arrivals, short with
      | [], _ => rfl
      | [_], _ => rfl
      | a :: b :: rest, short => exact (short a b rest rfl).elim

theorem distinctFrom_shift (seen : PlaceSet) (arrivals : List Arrival) :
    distinctFrom (seen.shift offset) (shiftAll offset arrivals) =
      shiftAll offset (distinctFrom seen arrivals) := by
  induction arrivals generalizing seen with
  | nil => rfl
  | cons a rest ih =>
      simp only [shiftAll_cons, distinctFrom, Arrival.place_shift, PlaceSet.contains_shift,
        PlaceSet.insert_shift, ih]
      split <;> rfl

theorem distinct_shift (arrivals : List Arrival) :
    distinct (shiftAll offset arrivals) = shiftAll offset (distinct arrivals) := by
  cases arrivals with
  | nil => rfl
  | cons a rest =>
      have up := ascends_shift offset (a :: rest)
      have down := descends_shift offset (a :: rest)
      have base := distinctFrom_shift offset (.above (leastPlace a.place rest)) (a :: rest)
      simp only [shiftAll_cons] at up down base
      simp only [shiftAll_cons, distinct, up, down, Arrival.place_shift, leastPlace_shift]
      split
      · rfl
      · exact base

/-- Gathering moves along with the steps. -/
theorem gather_shift {step later : Arrival → List Arrival}
    (steps : ∀ a, later (a.shift offset) = shiftAll offset (step a)) (sources : List Arrival) :
    gather later (shiftAll offset sources) = shiftAll offset (gather step sources) := by
  have all : (shiftAll offset sources).flatMap later =
      shiftAll offset (sources.flatMap step) := by
    simp only [shiftAll, List.flatMap_map, List.map_flatMap, steps]
  match sources with
  | [] => rfl
  | [a] => exact steps a
  | a :: b :: rest => exact (congrArg distinct all).trans (distinct_shift offset _)

end Shift

namespace Pattern

/-! ## Repetitions -/

namespace Explored

variable (offset : Nat) (e : Explored) (a : Arrival)

theorem begin_shift : (e.shift offset).begin (a.shift offset) = (e.begin a).shift offset := by
  simp only [begin, shift, Arrival.place_shift, PlaceSet.insert_shift]

theorem close_shift : (e.shift offset).close (a.shift offset) = (e.close a).shift offset := by
  simp only [close, shift, Arrival.place_shift, PlaceSet.insert_shift]

theorem stop_shift : (e.shift offset).stop (a.shift offset) = (e.stop a).shift offset := by
  simp only [stop, shift, Arrival.place_shift, PlaceSet.contains_shift, PlaceSet.insert_shift]
  split <;> rfl

theorem unexplored_shift (sources : List Arrival) (some : sources ≠ []) :
    unexplored (shiftAll offset sources) = (unexplored sources).shift offset := by
  obtain ⟨a, rest, rfl⟩ := List.exists_cons_of_ne_nil some
  simp only [shiftAll_cons, unexplored, Arrival.place_shift, leastPlace_shift]
  rfl

end Explored

section Exploring

variable {offset size : Nat} {step later : Arrival → List Arrival}
  {search search' : Arrival → Explored → Explored}

theorem proceed_shift (greedy : Bool) {e : Explored} {a : Arrival}
    (deeper : ∀ last : Explored, last.Extends e →
      search' (a.shift offset) (last.shift offset) = (search a last).shift offset) :
    proceed search' greedy (e.shift offset) (a.shift offset) =
      (proceed search greedy e a).shift offset := by
  rw [proceed, proceed, deeper e (.refl e), Explored.stop_shift, Explored.stop_shift,
    deeper (e.stop a) (e.extends_stop a)]
  split <;> rfl

theorem visit_shift (greedy : Bool) {e : Explored} {b : Arrival}
    (deeper : ∀ last : Explored, last.Extends e →
      search' (b.shift offset) (last.shift offset) = (search b last).shift offset) :
    visit search' greedy (e.shift offset) (b.shift offset) =
      (visit search greedy e b).shift offset := by
  have seen : (e.shift offset).ended.contains (b.shift offset).place = e.ended.contains b.place :=
    e.ended.contains_shift offset b.place
  rw [visit, visit, seen, Explored.close_shift,
    proceed_shift greedy fun last more => deeper last ((e.extends_close b).trans more)]
  split <;> rfl

/-- Going through some arrivals one after the other moves along, if that is so for each of
them. -/
theorem foldl_shift {visit visit' : Explored → Arrival → Explored}
    (grows : ∀ e b, (visit e b).Extends e) {arrivals : List Arrival} {e : Explored}
    (each : ∀ b ∈ arrivals, ∀ last : Explored, last.Extends e →
      visit' (last.shift offset) (b.shift offset) = (visit last b).shift offset) :
    (shiftAll offset arrivals).foldl visit' (e.shift offset) =
      (arrivals.foldl visit e).shift offset := by
  induction arrivals generalizing e with
  | nil => rfl
  | cons b rest ih =>
      rw [shiftAll_cons, List.foldl_cons, List.foldl_cons, each b List.mem_cons_self e (.refl e)]
      exact ih fun c member last more =>
        each c (List.mem_cons_of_mem _ member) last ((grows e b).trans more)

theorem explore_of_begun {greedy : Bool} {fuel : Nat} {a : Arrival} {e : Explored}
    (begun : e.begun.contains a.place = true) : explore step greedy fuel a e = e := by
  cases fuel with
  | zero => rfl
  | succ fuel => exact if_pos begun

variable (greedy : Bool) (steps : ∀ a, later (a.shift offset) = shiftAll offset (step a))
  (onward : ∀ a, ∀ b ∈ step a, b.place = a.place ∨ (a.place < b.place ∧ b.place ≤ size))
include steps onward

/-- **Exploring moves along with the steps**, however much more fuel there is. -/
theorem explore_shift {fuel more : Nat} (le : fuel ≤ more) {a : Arrival} {e : Explored}
    (fueled : e.Fueled size fuel a.place) :
    explore later greedy more (a.shift offset) (e.shift offset) =
      (explore step greedy fuel a e).shift offset := by
  have seen : (e.shift offset).begun.contains (a.shift offset).place =
      e.begun.contains a.place := e.begun.contains_shift offset a.place
  induction fuel generalizing more a e with
  | zero =>
      have begun := fueled.enough.resolve_right fun none => absurd none.1 (Nat.lt_irrefl 0)
      exact explore_of_begun (seen.trans begun)
  | succ fuel ih =>
      obtain ⟨more, rfl⟩ : ∃ rest, more = rest + 1 := ⟨more - 1, by omega⟩
      rw [explore, explore, seen]
      split
      · rfl
      · next unseen =>
        rw [steps, Explored.begin_shift]
        refine foldl_shift (fun e b => extends_visit (extends_explore step greedy fuel b) e)
          fun b member last further => visit_shift greedy fun most yet => ?_
        have fueled' := (fueled.next unseen (onward a b member)).extends (further.trans yet)
        exact ih (Nat.le_of_succ_le_succ le) fueled' (most.begun.contains_shift offset b.place)

/-- Exploring from a source moves along, with as much fuel as there are places in the longer
text. -/
theorem explore_source_shift {sources : List Arrival} {a : Arrival} (source : a ∈ sources)
    {e : Explored} (more : e.Extends (unexplored sources)) :
    explore later greedy (offset + size + 1) (a.shift offset) (e.shift offset) =
      (explore step greedy (size + 1) a e).shift offset :=
  explore_shift greedy steps onward (Nat.succ_le_succ (Nat.le_add_left size offset))
    ((fueled_unexplored size source).extends more)

/-- A repetition moves along with its rounds. -/
theorem starFrom_shift (sources : List Arrival) :
    starFrom (offset + size) later greedy (shiftAll offset sources) =
      shiftAll offset (starFrom size step greedy sources) := by
  by_cases some : sources = []
  · rw [some]
    rfl
  · rw [starFrom, starFrom, shiftAll_reverse, Explored.unexplored_shift _ _ some]
    refine congrArg (fun e : Explored => e.found.reverse) (foldl_shift
      (fun e b => extends_proceed (extends_explore step greedy (size + 1) b) e)
      fun b source e more => proceed_shift greedy fun last further => ?_)
    exact explore_source_shift greedy steps onward source (more.trans further)

theorem plusFrom_shift (sources : List Arrival) :
    plusFrom (offset + size) later greedy (shiftAll offset sources) =
      shiftAll offset (plusFrom size step greedy sources) := by
  by_cases some : sources = []
  · rw [some]
    rfl
  · rw [plusFrom, plusFrom, shiftAll_reverse, Explored.unexplored_shift _ _ some]
    exact congrArg (fun e : Explored => e.found.reverse) (foldl_shift
      (fun e b => extends_explore step greedy (size + 1) b e)
      fun b source e more => explore_source_shift greedy steps onward source more)

end Exploring

/-! ## Matching -/

section Behind

variable (before text : Array Char)

theorem getElem?_behind (place : Nat) : (before ++ text)[before.size + place]? = text[place]? := by
  rw [Array.getElem?_append_right (Nat.le_add_right _ _), Nat.add_sub_cancel_left]

theorem sweep_append (s : CharSet) (token : Option Span) (fuel place : Nat)
    (shorter : List Arrival) :
    sweep (before ++ text) s (token.map (·.shift before.size)) fuel (before.size + place)
        (shiftAll before.size shorter) =
      shiftAll before.size (sweep text s token fuel place shorter) := by
  induction fuel generalizing place shorter with
  | zero => rfl
  | succ fuel ih =>
      have further := ih (place + 1) (⟨place, token⟩ :: shorter)
      simp only [sweep, getElem?_behind]
      cases text[place]? with
      | none => rfl
      | some c =>
          dsimp only
          split
          · exact further
          · rfl

theorem runFrom_append (greedy : Bool) (s : CharSet) (a : Arrival) :
    runFrom (before ++ text) greedy s (a.shift before.size) =
      shiftAll before.size (runFrom text greedy s a) := by
  have room : (before ++ text).size + 1 - (before.size + a.place) = text.size + 1 - a.place := by
    rw [Array.size_append]
    omega
  have swept := sweep_append before text s a.token (text.size + 1 - a.place) a.place []
  simp only [runFrom, Arrival.place_shift, room]
  split
  · exact swept
  · rw [shiftAll_reverse]
    exact congrArg List.reverse swept

/-- A pattern leads further on, inside the text unless it stays. -/
theorem goesOn_advance (p : Pattern) (a b : Arrival) (next : b ∈ advance text p [a]) :
    b.place = a.place ∨ (a.place < b.place ∧ b.place ≤ text.size) := by
  obtain ⟨_, only, le, inside, _⟩ := advance_onward text p [a] b next
  cases List.mem_singleton.1 only
  omega

/-- **Behind other text a pattern without conditions leads to the same arrivals**, moved
along. -/
theorem advance_append :
    ∀ (p : Pattern) (sources : List Arrival), p.hasAssertion = false →
      advance (before ++ text) p (shiftAll before.size sources) =
        shiftAll before.size (advance text p sources)
  | empty, sources, _ => rfl
  | one s, sources, _ => by
      simp only [advance, shiftAll, List.filterMap_map, List.map_filterMap]
      congr 1
      funext a
      simp only [Function.comp_apply, Arrival.place_shift, getElem?_behind]
      cases text[a.place]? with
      | none => rfl
      | some c =>
          dsimp only
          split <;> rfl
  | cat p q, sources, free => by
      rw [hasAssertion, Bool.or_eq_false_iff] at free
      rw [advance, advance, advance_append p sources free.1, advance_append q _ free.2]
  | alt p q, sources, free => by
      rw [hasAssertion, Bool.or_eq_false_iff] at free
      rw [advance, advance]
      refine gather_shift before.size (fun a => ?_) sources
      have first := advance_append p [a] free.1
      have second := advance_append q [a] free.2
      rw [← distinct_shift, shiftAll_append, ← first, ← second]
      rfl
  | run greedy s, sources, _ => by
      rw [advance, advance]
      exact gather_shift before.size (runFrom_append before text greedy s) sources
  | star greedy p, sources, free => by
      rw [advance, advance, Array.size_append]
      exact starFrom_shift greedy (fun a => advance_append p [a] free) (goesOn_advance text p)
        sources
  | plus greedy p, sources, free => by
      rw [advance, advance, Array.size_append]
      exact plusFrom_shift greedy (fun a => advance_append p [a] free) (goesOn_advance text p)
        sources
  | token p, sources, free => by
      rw [advance, advance]
      refine gather_shift before.size (fun a => ?_) sources
      have moved := advance_append p [a] free
      simp only [shiftAll_cons, shiftAll_nil] at moved
      rw [moved]
      simp only [shiftAll, List.map_map]
      rfl

variable {p : Pattern} (noAssertion : p.hasAssertion = false)
include noAssertion

/-- The match at a place behind other text. -/
theorem matchAt_append (place : Nat) :
    p.matchAt (before ++ text) (before.size + place) =
      (p.matchAt text place).map fun m =>
        ⟨m.whole.shift before.size, m.token.map (·.shift before.size)⟩ := by
  have arrivals : advance (before ++ text) p [⟨before.size + place, none⟩] =
      shiftAll before.size (advance text p [⟨place, none⟩]) :=
    advance_append before text p [⟨place, none⟩] noAssertion
  rw [matchAt, matchAt, arrivals, shiftAll, List.head?_map, Option.map_map, Option.map_map]
  rfl

/-- The token of the match at a place behind other text. -/
theorem tokenAt_append (place : Nat) :
    p.tokenAt (before ++ text) (before.size + place) =
      (p.tokenAt text place).map (·.shift before.size) := by
  simp only [tokenAt, matchAt_append before text noAssertion]
  cases p.matchAt text place with
  | none => rfl
  | some m =>
      have span : (⟨m.whole.shift before.size, m.token.map (·.shift before.size)⟩ : Match).span =
          m.span.shift before.size := by
        simp only [Match.span]
        cases m.token <;> rfl
      have empty : (m.span.shift before.size).isEmpty = m.span.isEmpty := by
        simp only [Span.isEmpty, Span.shift, Nat.add_le_add_iff_left]
      simp only [Option.map_some, span, empty]
      split <;> rfl

/-- **A pattern without conditions finds behind other text what it finds in the text taken by
itself.** -/
theorem find_append (place : Nat) :
    p.find (before ++ text) (before.size + place) =
      (p.find text place).map (·.shift before.size) := by
  have room : (before ++ text).size - (before.size + place) = text.size - place := by
    rw [Array.size_append, Nat.add_sub_add_left]
  rw [find_eq_findFrom, find_eq_findFrom, room]
  clear room
  generalize text.size - place = fuel
  induction fuel generalizing place with
  | zero => rfl
  | succ fuel ih =>
      rw [findFrom, findFrom, tokenAt_append before text noAssertion]
      cases p.tokenAt text place with
      | none => exact ih (place + 1)
      | some found => rfl

end Behind

/-- A search from a place of a text is one in what stands from there on. -/
theorem find_eq_find_rest {p : Pattern} (noAssertion : p.hasAssertion = false) {text : Array Char}
    {start : Nat} (inside : start ≤ text.size) :
    p.find text start =
      (p.find ((⟨start, text.size⟩ : Span).slice text) 0).map (·.shift start) := by
  have whole : text.extract 0 start ++ text.extract start text.size = text := by
    rw [Array.extract_append_extract, Nat.min_eq_left (Nat.zero_le _), Nat.max_eq_right inside,
      Array.extract_size]
  have size : (text.extract 0 start).size = start := by
    rw [Array.size_extract, Nat.min_eq_left inside, Nat.sub_zero]
  have found := find_append (text.extract 0 start) (text.extract start text.size) noAssertion 0
  rwa [whole, size, Nat.add_zero] at found

end Pattern

end Highlight
