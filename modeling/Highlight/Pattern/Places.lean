import Highlight.Pattern.Match

/-!
# Where matches lie

Matching only moves forward: an arrival is never before the place it started
from, and the token lies between the two (`advance_onward`). So the span found
by a search begins at the place searched from or later, holds at least one
character, and ends inside the text (`find_bounds`).
-/

namespace Highlight

set_option autoImplicit false

/-- An arrival that can come from another one in a text of some size: further
on, inside the text unless it stayed, and with the same token or one between
the two places. -/
def Onward (size : Nat) (a b : Arrival) : Prop :=
  a.place ≤ b.place ∧ (b.place ≤ size ∨ b.place = a.place) ∧
    (b.token = a.token ∨
      ∃ t : Span, b.token = some t ∧ a.place ≤ t.start ∧ t.start ≤ t.stop ∧ t.stop ≤ b.place)

theorem Onward.refl (size : Nat) (a : Arrival) : Onward size a a :=
  ⟨Nat.le_refl _, Or.inr rfl, Or.inl rfl⟩

theorem Onward.trans {size : Nat} {a b c : Arrival} (first : Onward size a b)
    (second : Onward size b c) : Onward size a c := by
  obtain ⟨le₁, inside₁, token₁⟩ := first
  obtain ⟨le₂, inside₂, token₂⟩ := second
  refine ⟨Nat.le_trans le₁ le₂, ?_, ?_⟩
  · rcases inside₂ with inside | stay
    · exact Or.inl inside
    · rw [stay]
      exact inside₁
  · rcases token₂ with same | ⟨t, is, start, order, stop⟩
    · rcases token₁ with same' | ⟨t, is, start, order, stop⟩
      · exact Or.inl (same.trans same')
      · exact Or.inr ⟨t, same.trans is, start, order, Nat.le_trans stop le₂⟩
    · exact Or.inr ⟨t, is, Nat.le_trans le₁ start, order, stop⟩

/-- Every arrival in a list comes from one of some sources. -/
def AllOnward (size : Nat) (sources arrivals : List Arrival) : Prop :=
  ∀ b ∈ arrivals, ∃ a ∈ sources, Onward size a b

theorem mem_of_mem_distinctFrom {seen : PlaceSet} {a : Arrival} {arrivals : List Arrival}
    (member : a ∈ distinctFrom seen arrivals) : a ∈ arrivals := by
  induction arrivals generalizing seen with
  | nil => simp [distinctFrom] at member
  | cons b rest ih =>
    simp only [distinctFrom] at member
    split at member
    · exact List.mem_cons_of_mem _ (ih member)
    · rcases List.mem_cons.1 member with rfl | member
      · exact List.mem_cons_self
      · exact List.mem_cons_of_mem _ (ih member)

theorem mem_of_mem_distinct {a : Arrival} {arrivals : List Arrival}
    (member : a ∈ distinct arrivals) : a ∈ arrivals := by
  match arrivals with
  | [] => exact member
  | _ :: _ =>
      simp only [distinct] at member
      split at member
      · exact member
      · exact mem_of_mem_distinctFrom member

/-- What is gathered comes from one step out of one source. -/
theorem exists_of_mem_gather {step : Arrival → List Arrival} {sources : List Arrival}
    {b : Arrival} (member : b ∈ gather step sources) : ∃ a ∈ sources, b ∈ step a := by
  match sources with
  | [] => simp [gather, distinct] at member
  | [a] => exact ⟨a, List.mem_cons_self, member⟩
  | a :: a' :: rest => exact List.mem_flatMap.1 (mem_of_mem_distinct member)

namespace Pattern

theorem mem_sweep {text : Array Char} {s : CharSet} {token : Option Span} {b : Arrival} :
    ∀ {fuel place : Nat} {shorter : List Arrival}, place ≤ text.size →
      b ∈ sweep text s token fuel place shorter →
        b ∈ shorter ∨ (b.token = token ∧ place ≤ b.place ∧ b.place ≤ text.size)
  | 0, _, _, _, member => Or.inl member
  | fuel + 1, place, shorter, inside, member => by
      simp only [sweep] at member
      have here (found : b ∈ (⟨place, token⟩ : Arrival) :: shorter) :
          b ∈ shorter ∨ (b.token = token ∧ place ≤ b.place ∧ b.place ≤ text.size) := by
        rcases List.mem_cons.1 found with rfl | found
        · exact Or.inr ⟨rfl, Nat.le_refl _, inside⟩
        · exact Or.inl found
      split at member
      · exact here member
      · next c present =>
        have more : place + 1 ≤ text.size := (Array.getElem?_eq_some_iff.1 present).1
        split at member
        · rcases mem_sweep more member with found | ⟨tok, low, high⟩
          · exact here found
          · exact Or.inr ⟨tok, by omega, high⟩
        · exact here member

theorem onward_of_mem_runFrom {text : Array Char} {greedy : Bool} {s : CharSet} {a b : Arrival}
    (member : b ∈ runFrom text greedy s a) : Onward text.size a b := by
  have swept : b ∈ sweep text s a.token (text.size + 1 - a.place) a.place [] := by
    simp only [runFrom] at member
    split at member
    · exact member
    · exact List.mem_reverse.1 member
  by_cases inside : a.place ≤ text.size
  · rcases mem_sweep inside swept with found | ⟨tok, low, high⟩
    · exact absurd found List.not_mem_nil
    · exact ⟨low, Or.inl high, Or.inl tok⟩
  · have none : text.size + 1 - a.place = 0 := by omega
    rw [none] at swept
    exact absurd swept List.not_mem_nil

section Exploring

variable {step : Arrival → List Arrival} {search : Arrival → Explored → Explored} {greedy : Bool}
  {P : Arrival → Prop}

/-- What holds of all that was found holds of all that is found when an arrival is added of
which it holds. -/
theorem forall_mem_stop {e : Explored} {a : Arrival} (holds : P a)
    (known : ∀ b ∈ e.found, P b) : ∀ b ∈ (e.stop a).found, P b := by
  rw [Explored.stop]
  split
  · exact known
  · exact List.forall_mem_cons.2 ⟨holds, known⟩

theorem forall_mem_proceed {e : Explored} {a : Arrival}
    (deeper : ∀ e : Explored, (∀ b ∈ e.found, P b) → ∀ b ∈ (search a e).found, P b)
    (holds : P a) (known : ∀ b ∈ e.found, P b) :
    ∀ b ∈ (proceed search greedy e a).found, P b := by
  rw [proceed]
  split
  · exact forall_mem_stop holds (deeper e known)
  · exact deeper _ (forall_mem_stop holds known)

theorem forall_mem_visit {e : Explored} {b : Arrival}
    (deeper : ∀ e : Explored, (∀ c ∈ e.found, P c) → ∀ c ∈ (search b e).found, P c)
    (holds : P b) (known : ∀ c ∈ e.found, P c) :
    ∀ c ∈ (visit search greedy e b).found, P c := by
  rw [visit]
  split
  · exact known
  · exact forall_mem_proceed deeper holds known

/-- What holds of all that a first round leads to, and of all that a step leads to from
where it holds, holds of all that exploring finds. -/
theorem forall_mem_explore (closed : ∀ a, P a → ∀ b ∈ step a, P b) :
    ∀ (fuel : Nat) (a : Arrival) (e : Explored), (∀ b ∈ step a, P b) → (∀ b ∈ e.found, P b) →
      ∀ b ∈ (explore step greedy fuel a e).found, P b
  | 0, _, _, _, known => known
  | fuel + 1, a, e, next, known => by
      rw [explore]
      split
      · exact known
      · refine List.foldlRecOn (motive := fun e : Explored => ∀ b ∈ e.found, P b) (step a) _ known
          fun e known b member => forall_mem_visit (fun e known => ?_) (next b member) known
        exact forall_mem_explore closed fuel b e (closed b (next b member)) known

theorem forall_mem_unexplored (sources : List Arrival) :
    ∀ b ∈ (unexplored sources).found, P b := by
  cases sources with
  | nil => exact List.forall_mem_nil P
  | cons a rest => exact List.forall_mem_nil P

/-- What holds of some places and of all places that a step leads to from where
it holds, holds of all that a repetition reaches from them. -/
theorem forall_mem_starFrom (closed : ∀ a, P a → ∀ b ∈ step a, P b) (size : Nat)
    {sources : List Arrival} (start : ∀ a ∈ sources, P a) :
    ∀ b ∈ starFrom size step greedy sources, P b := by
  intro b member
  refine List.foldlRecOn (motive := fun e : Explored => ∀ b ∈ e.found, P b) sources _
    (forall_mem_unexplored sources) (fun e known a source => ?_) b (List.mem_reverse.1 member)
  have holds := start a source
  exact forall_mem_proceed (fun e known => forall_mem_explore closed _ a e (closed a holds) known)
    holds known

/-- What holds of all places that a step leads to from some places, and from where it holds,
holds of all that at least one repetition reaches from them. -/
theorem forall_mem_plusFrom (closed : ∀ a, P a → ∀ b ∈ step a, P b) (size : Nat)
    {sources : List Arrival} (first : ∀ a ∈ sources, ∀ b ∈ step a, P b) :
    ∀ b ∈ plusFrom size step greedy sources, P b := by
  intro b member
  refine List.foldlRecOn (motive := fun e : Explored => ∀ b ∈ e.found, P b) sources _
    (forall_mem_unexplored sources) (fun e known a source => ?_) b (List.mem_reverse.1 member)
  exact forall_mem_explore closed _ a e (first a source) known

variable {size : Nat} (onward : ∀ a, ∀ b ∈ step a, Onward size a b)
include onward

/-- Where a source leads to, a round leads on. -/
theorem exists_onward_of_step {sources : List Arrival} (a : Arrival)
    (from' : ∃ s ∈ sources, Onward size s a) (b : Arrival) (next : b ∈ step a) :
    ∃ s ∈ sources, Onward size s b := by
  obtain ⟨s, source, reach⟩ := from'
  exact ⟨s, source, reach.trans (onward a b next)⟩

/-- What a repetition reaches comes from one of its sources, if that is so for
one round. -/
theorem allOnward_starFrom (fuel : Nat) (sources : List Arrival) :
    AllOnward size sources (starFrom fuel step greedy sources) :=
  forall_mem_starFrom (exists_onward_of_step onward) fuel fun a source =>
    ⟨a, source, .refl size a⟩

theorem allOnward_plusFrom (fuel : Nat) (sources : List Arrival) :
    AllOnward size sources (plusFrom fuel step greedy sources) :=
  forall_mem_plusFrom (exists_onward_of_step onward) fuel fun a source b next =>
    ⟨a, source, onward a b next⟩

end Exploring

/-- Steps by a pattern that leads onward from all sources lead onward. -/
theorem onward_of_allOnward {text : Array Char} {p : Pattern}
    (onward : ∀ sources, AllOnward text.size sources (advance text p sources)) (a b : Arrival)
    (next : b ∈ advance text p [a]) : Onward text.size a b := by
  obtain ⟨_, only, reach⟩ := onward [a] b next
  exact List.mem_singleton.1 only ▸ reach

/-- Every arrival of a pattern comes from one of its sources: further on, inside
the text, with a token in between if with a new one. -/
theorem advance_onward (text : Array Char) :
    ∀ (p : Pattern) (sources : List Arrival),
      AllOnward text.size sources (advance text p sources)
  | empty, sources, b, member => ⟨b, member, .refl _ b⟩
  | one s, sources, b, member => by
      simp only [advance, List.mem_filterMap] at member
      obtain ⟨a, source, found⟩ := member
      refine ⟨a, source, ?_⟩
      split at found
      · simp at found
      · next c present =>
        have inside : a.place < text.size := (Array.getElem?_eq_some_iff.1 present).1
        split at found
        · rw [Option.some.injEq] at found
          rw [← found]
          exact ⟨Nat.le_succ _, Or.inl inside, Or.inl rfl⟩
        · simp at found
  | assert condition, sources, b, member => ⟨b, (List.mem_filter.1 member).1, .refl _ b⟩
  | cat p q, sources, b, member => by
      obtain ⟨c, middle, second⟩ := advance_onward text q _ b member
      obtain ⟨a, source, first⟩ := advance_onward text p _ c middle
      exact ⟨a, source, first.trans second⟩
  | alt p q, sources, b, member => by
      obtain ⟨a, source, found⟩ := exists_of_mem_gather member
      refine ⟨a, source, ?_⟩
      rcases List.mem_append.1 (mem_of_mem_distinct found) with found | found
      · obtain ⟨_, only, onward⟩ := advance_onward text p _ b found
        exact List.mem_singleton.1 only ▸ onward
      · obtain ⟨_, only, onward⟩ := advance_onward text q _ b found
        exact List.mem_singleton.1 only ▸ onward
  | run greedy s, sources, b, member => by
      obtain ⟨a, source, found⟩ := exists_of_mem_gather member
      exact ⟨a, source, onward_of_mem_runFrom found⟩
  | star greedy p, sources, b, member =>
      allOnward_starFrom (onward_of_allOnward (advance_onward text p)) text.size sources b member
  | plus greedy p, sources, b, member =>
      allOnward_plusFrom (onward_of_allOnward (advance_onward text p)) text.size sources b member
  | token p, sources, b, member => by
      obtain ⟨a, source, found⟩ := exists_of_mem_gather member
      obtain ⟨c, reached, is⟩ := List.mem_map.1 found
      obtain ⟨_, only, onward⟩ := advance_onward text p _ c reached
      have onward := List.mem_singleton.1 only ▸ onward
      refine ⟨a, source, ?_⟩
      rw [← is]
      exact ⟨onward.1, onward.2.1,
        Or.inr ⟨_, rfl, Nat.le_refl _, onward.1, Nat.le_refl _⟩⟩

/-- Of every set that a pattern needs a character stands ahead of the source of
an arrival. -/
theorem advance_needs (text : Array Char) :
    ∀ (p : Pattern) (sources : List Arrival), ∀ b ∈ advance text p sources,
      ∃ a ∈ sources, Onward text.size a b ∧
        ∀ s ∈ p.needs, ∃ place, a.place ≤ place ∧ text[place]?.any s.contains = true
  | one s, sources, b, member => by
      simp only [advance, List.mem_filterMap] at member
      obtain ⟨a, source, found⟩ := member
      have reached : b ∈ advance text (one s) [a] := by
        simpa [advance] using found
      obtain ⟨_, only, onward⟩ := advance_onward text (one s) [a] b reached
      refine ⟨a, source, List.mem_singleton.1 only ▸ onward, ?_⟩
      intro t need
      rw [List.mem_singleton.1 need]
      refine ⟨a.place, Nat.le_refl _, ?_⟩
      split at found
      · simp at found
      · next c present =>
        split at found
        · next inside => simpa [present] using inside
        · simp at found
  | cat p q, sources, b, member => by
      obtain ⟨c, middle, second, needs₂⟩ := advance_needs text q _ b member
      obtain ⟨a, source, first, needs₁⟩ := advance_needs text p _ c middle
      refine ⟨a, source, first.trans second, ?_⟩
      intro s need
      rcases List.mem_append.1 need with need | need
      · exact needs₁ s need
      · obtain ⟨place, ahead, holds⟩ := needs₂ s need
        exact ⟨place, Nat.le_trans first.1 ahead, holds⟩
  | token p, sources, b, member => by
      obtain ⟨a, source, found⟩ := exists_of_mem_gather member
      obtain ⟨c, reached, is⟩ := List.mem_map.1 found
      obtain ⟨_, only, onward, needs⟩ := advance_needs text p _ c reached
      have same := List.mem_singleton.1 only
      subst same
      refine ⟨_, source, ?_, needs⟩
      rw [← is]
      exact ⟨onward.1, onward.2.1,
        Or.inr ⟨_, rfl, Nat.le_refl _, onward.1, Nat.le_refl _⟩⟩
  | empty, sources, b, member => ⟨b, member, .refl _ b, fun _ need => absurd need List.not_mem_nil⟩
  | assert condition, sources, b, member => by
      obtain ⟨a, source, onward⟩ := advance_onward text (assert condition) sources b member
      exact ⟨a, source, onward, fun _ need => absurd need List.not_mem_nil⟩
  | alt p q, sources, b, member => by
      obtain ⟨a, source, onward⟩ := advance_onward text (alt p q) sources b member
      exact ⟨a, source, onward, fun _ need => absurd need List.not_mem_nil⟩
  | run greedy s, sources, b, member => by
      obtain ⟨a, source, onward⟩ := advance_onward text (run greedy s) sources b member
      exact ⟨a, source, onward, fun _ need => absurd need List.not_mem_nil⟩
  | star greedy p, sources, b, member => by
      obtain ⟨a, source, onward⟩ := advance_onward text (star greedy p) sources b member
      exact ⟨a, source, onward, fun _ need => absurd need List.not_mem_nil⟩
  | plus greedy p, sources, b, member => by
      let Ahead (b : Arrival) : Prop := ∃ a ∈ sources, Onward text.size a b ∧
        ∀ s ∈ p.needs, ∃ place, a.place ≤ place ∧ text[place]?.any s.contains = true
      have later (a : Arrival) (from' : Ahead a) (b : Arrival) (next : b ∈ advance text p [a]) :
          Ahead b := by
        obtain ⟨s, source, reach, needs⟩ := from'
        have onward := onward_of_allOnward (advance_onward text p) a b next
        exact ⟨s, source, reach.trans onward, needs⟩
      have first (a : Arrival) (source : a ∈ sources) (b : Arrival)
          (next : b ∈ advance text p [a]) : Ahead b := by
        obtain ⟨_, only, reach, needs⟩ := advance_needs text p [a] b next
        cases List.mem_singleton.1 only
        exact ⟨a, source, reach, needs⟩
      exact forall_mem_plusFrom later text.size first b member

/-- A match begins where it was looked for, and its token lies in it. -/
theorem matchAt_bounds {p : Pattern} {text : Array Char} {place : Nat} {m : Match}
    (found : p.matchAt text place = some m) :
    m.whole.start = place ∧ place ≤ m.whole.stop ∧
      (m.whole.stop ≤ text.size ∨ m.whole.stop = place) ∧
      m.whole.start ≤ m.span.start ∧ m.span.stop ≤ m.whole.stop := by
  simp only [matchAt, Option.map_eq_some_iff] at found
  obtain ⟨b, first, rfl⟩ := found
  obtain ⟨_, only, onward⟩ := advance_onward text p _ b (List.mem_of_head? first)
  obtain ⟨le, inside, token⟩ := List.mem_singleton.1 only ▸ onward
  refine ⟨rfl, le, inside, ?_, ?_⟩ <;> simp only [Match.span] <;>
    rcases token with same | ⟨t, is, low, _, high⟩
  · simp only [same, Option.getD_none]
    exact Nat.le_refl _
  · simpa only [is, Option.getD_some] using low
  · simp only [same, Option.getD_none]
    exact Nat.le_refl _
  · simpa only [is, Option.getD_some] using high

theorem tokenAt_bounds {p : Pattern} {text : Array Char} {place : Nat} {s : Span}
    (found : p.tokenAt text place = some s) :
    place ≤ s.start ∧ s.start < s.stop ∧ s.stop ≤ text.size := by
  simp only [tokenAt] at found
  split at found
  · simp at found
  · next m at' =>
    obtain ⟨start, le, inside, low, high⟩ := matchAt_bounds at'
    split at found
    · simp at found
    · next nonempty =>
      rw [Option.some.injEq] at found
      subst found
      have proper := (Span.isEmpty_eq_false_iff _).1 (Bool.eq_false_iff.2 nonempty)
      omega

theorem findFrom_bounds {p : Pattern} {text : Array Char} {s : Span} :
    ∀ {fuel place : Nat}, p.findFrom text fuel place = some s →
      place ≤ s.start ∧ s.start < s.stop ∧ s.stop ≤ text.size
  | 0, _, found => by simp [findFrom] at found
  | fuel + 1, place, found => by
      simp only [findFrom] at found
      split at found
      · next here =>
        rw [Option.some.injEq] at found
        exact found ▸ tokenAt_bounds here
      · have := findFrom_bounds found
        omega

/-! ## The horizon of a search -/

theorem lt_lastOf {text : Array Char} {s : CharSet} {place : Nat} :
    ∀ {count : Nat}, place < count → text[place]?.any s.contains = true →
      place < lastOf text s count
  | 0, before, _ => absurd before (Nat.not_lt_zero _)
  | count + 1, before, holds => by
      simp only [lastOf]
      split
      · exact before
      · next fails =>
        have other : place ≠ count := by
          rintro rfl
          exact fails holds
        exact lt_lastOf (by omega) holds

/-- A place with a character of each of some sets ahead of it lies before the
least of their last places. -/
theorem lt_foldl_lastOf {text : Array Char} {place : Nat} :
    ∀ {sets : List CharSet} {limit : Nat}, place < limit →
      (∀ s ∈ sets, ∃ ahead, place ≤ ahead ∧ text[ahead]?.any s.contains = true) →
      place < sets.foldl (fun limit s => min limit (lastOf text s text.size)) limit
  | [], _, before, _ => before
  | s :: rest, limit, before, needs => by
      obtain ⟨ahead, le, holds⟩ := needs s List.mem_cons_self
      have inside : ahead < text.size := by
        by_cases inside : ahead < text.size
        · exact inside
        · have past : text[ahead]? = none := Array.getElem?_eq_none (by omega)
          simp [past] at holds
      have last := lt_lastOf inside holds
      rw [List.foldl_cons]
      exact lt_foldl_lastOf (Nat.lt_min.2 ⟨before, Nat.lt_of_le_of_lt le last⟩)
        fun t m => needs t (List.mem_cons_of_mem _ m)

/-- No token is found at or behind the horizon. -/
theorem tokenAt_eq_none_of_horizon_le {p : Pattern} {text : Array Char} {place : Nat}
    (behind : p.horizon text ≤ place) : p.tokenAt text place = none := by
  cases found : p.tokenAt text place with
  | none => rfl
  | some s =>
    have bounds := tokenAt_bounds found
    simp only [tokenAt] at found
    split at found
    · simp at found
    · next m at' =>
      simp only [matchAt, Option.map_eq_some_iff] at at'
      obtain ⟨b, first, _⟩ := at'
      obtain ⟨_, only, _, needs⟩ := advance_needs text p _ b (List.mem_of_head? first)
      rw [List.mem_singleton.1 only] at needs
      have : place < p.horizon text := lt_foldl_lastOf (by omega) needs
      omega

theorem findFrom_eq_none {p : Pattern} {text : Array Char} :
    ∀ {fuel place : Nat}, (∀ i, place ≤ i → p.tokenAt text i = none) →
      p.findFrom text fuel place = none
  | 0, _, _ => rfl
  | fuel + 1, place, nothing => by
      simp only [findFrom, nothing place (Nat.le_refl _)]
      exact findFrom_eq_none fun i le => nothing i (by omega)

/-- Looking further than the places where a token can begin changes nothing. -/
theorem findFrom_of_le {p : Pattern} {text : Array Char} {more : Nat} :
    ∀ {fuel place : Nat}, fuel ≤ more → (∀ i, place + fuel ≤ i → p.tokenAt text i = none) →
      p.findFrom text fuel place = p.findFrom text more place
  | 0, place, _, nothing => (findFrom_eq_none fun i le => nothing i (by omega)).symm
  | fuel + 1, place, le, nothing => by
      obtain ⟨rest, rfl⟩ : ∃ rest, more = rest + 1 := ⟨more - 1, by omega⟩
      simp only [findFrom]
      split
      · rfl
      · exact findFrom_of_le (by omega) fun i le => nothing i (by omega)

theorem foldl_lastOf_le {text : Array Char} :
    ∀ {sets : List CharSet} {limit : Nat},
      sets.foldl (fun limit s => min limit (lastOf text s text.size)) limit ≤ limit
  | [], _ => Nat.le_refl _
  | s :: rest, limit => by
      rw [List.foldl_cons]
      exact Nat.le_trans foldl_lastOf_le (Nat.min_le_left _ _)

/-- A search looks at every place up to the end of the text. -/
theorem find_eq_findFrom (p : Pattern) (text : Array Char) (place : Nat) :
    p.find text place = p.findFrom text (text.size - place) place := by
  have le : p.horizon text ≤ text.size := foldl_lastOf_le
  exact findFrom_of_le (by omega) fun i le => tokenAt_eq_none_of_horizon_le (by omega)

/-- What a search finds begins where the search began or later, holds at least
one character and lies in the text. -/
theorem find_bounds {p : Pattern} {text : Array Char} {place : Nat} {s : Span}
    (found : p.find text place = some s) :
    place ≤ s.start ∧ s.start < s.stop ∧ s.stop ≤ text.size :=
  findFrom_bounds found

end Pattern

end Highlight
