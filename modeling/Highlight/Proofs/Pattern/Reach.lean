import Highlight.Pattern.Places
import Mathlib.Logic.Relation

/-!
# What a pattern reaches

Which places a pattern leads to from a place is a relation that knows nothing of
preference, of lists of arrivals or of places visited before (`Pattern.Reaches`). Matching
computes this relation: the places of the arrivals are those reached from one of the sources
(`Pattern.mem_places_advance_iff`), so a pattern matches at a place exactly if it reaches
something from there (`Pattern.matchAt_ne_none_iff`).

That nothing is missed has to be shown where arrivals are left out. An arrival is dropped
only for an earlier one at the same place (`mem_places_distinct`). A repetition turns back at
a place where rounds have begun before and at one where a round has ended before, and what it
has not left yet is still open: from every other place where rounds begin, whatever a round
leads to is the end of one, and every other end of a round is found and rounds begin there
(`Explored.Settled`). At the end nothing is open.
-/

namespace Highlight

set_option autoImplicit false

/-- The places of some arrivals. -/
def places (arrivals : List Arrival) : List Nat := arrivals.map Arrival.place

/-- Whether the character at a place belongs to a set. -/
def CharSet.StandsAt (s : CharSet) (text : Array Char) (place : Nat) : Prop :=
  text[place]?.any s.contains = true

/-- The places that a pattern leads to from a place. -/
def Pattern.Reaches (text : Array Char) : Pattern → Nat → Nat → Prop
  | .empty, place, other => other = place
  | .one s, place, other => other = place + 1 ∧ s.StandsAt text place
  | .assert condition, place, other => other = place ∧ condition.holds text place = true
  | .cat p q, place, other => ∃ between, Reaches text p place between ∧ Reaches text q between other
  | .alt p q, place, other => Reaches text p place other ∨ Reaches text q place other
  | .run _ s, place, other =>
      place ≤ other ∧ other ≤ text.size ∧ ∀ i, place ≤ i → i < other → s.StandsAt text i
  | .star _ p, place, other => Relation.ReflTransGen (Reaches text p) place other
  | .plus _ p, place, other => Relation.TransGen (Reaches text p) place other
  | .token p, place, other => Reaches text p place other

theorem CharSet.StandsAt.lt_size {s : CharSet} {text : Array Char} {place : Nat}
    (stands : s.StandsAt text place) : place < text.size := by
  refine Nat.lt_of_not_le fun past => ?_
  have absent : text[place]? = Option.none := Array.getElem?_eq_none past
  simp only [StandsAt, absent, Option.any_none, Bool.false_eq_true] at stands

theorem CharSet.standsAt_iff {s : CharSet} {text : Array Char} {place : Nat} {c : Char}
    (present : text[place]? = some c) : s.StandsAt text place ↔ s.contains c = true := by
  simp only [StandsAt, present, Option.any_some]

theorem CharSet.standsAt_iff_exists {s : CharSet} {text : Array Char} {place : Nat} :
    s.StandsAt text place ↔ ∃ c, text[place]? = some c ∧ s.contains c = true := by
  rw [StandsAt, Option.any_eq_true]

/-! ## Lists of arrivals -/

theorem mem_places_iff {arrivals : List Arrival} {place : Nat} :
    place ∈ places arrivals ↔ ∃ b ∈ arrivals, b.place = place :=
  List.mem_map

theorem mem_places_append {first second : List Arrival} {place : Nat} :
    place ∈ places (first ++ second) ↔ place ∈ places first ∨ place ∈ places second := by
  rw [places, List.map_append, List.mem_append, places, places]

theorem mem_places_distinctFrom {place : Nat} {arrivals : List Arrival} {seen : PlaceSet}
    (member : place ∈ places arrivals) :
    seen.contains place = true ∨ place ∈ places (distinctFrom seen arrivals) := by
  induction arrivals generalizing seen with
  | nil => exact absurd member List.not_mem_nil
  | cons a rest ih =>
      rw [distinctFrom]
      rcases List.mem_cons.1 member with rfl | later
      · by_cases before : seen.contains a.place = true
        · exact Or.inl before
        · rw [if_neg before]
          exact Or.inr List.mem_cons_self
      · split
        · exact ih later
        · rcases ih later with before | found
          · rw [PlaceSet.contains_insert, Bool.or_eq_true, Bool.and_eq_true, decide_eq_true_eq,
              decide_eq_true_eq] at before
            rcases before with before | ⟨_, same⟩
            · exact Or.inl before
            · exact Or.inr (same ▸ List.mem_cons_self)
          · exact Or.inr (List.mem_cons_of_mem _ found)

/-- Leaving out arrivals at places that have been reached before leaves out no place. -/
theorem mem_places_distinct {place : Nat} {arrivals : List Arrival} :
    place ∈ places (distinct arrivals) ↔ place ∈ places arrivals := by
  constructor
  · intro member
    obtain ⟨b, found, rfl⟩ := List.mem_map.1 member
    exact List.mem_map_of_mem (mem_of_mem_distinct found)
  · intro member
    cases arrivals with
    | nil => exact absurd member List.not_mem_nil
    | cons a rest =>
        rw [distinct]
        split
        · exact member
        · refine (mem_places_distinctFrom member).resolve_left ?_
          rw [PlaceSet.contains_above]
          exact Bool.false_ne_true

theorem mem_places_gather {step : Arrival → List Arrival} {sources : List Arrival} {place : Nat} :
    place ∈ places (gather step sources) ↔ ∃ a ∈ sources, place ∈ places (step a) := by
  have all : place ∈ places (sources.flatMap step) ↔ ∃ a ∈ sources, place ∈ places (step a) := by
    simp only [places, List.map_flatMap, List.mem_flatMap]
  match sources with
  | [] => exact mem_places_distinct.trans all
  | [a] => simp only [gather, List.mem_singleton, exists_eq_left]
  | a :: b :: rest => exact mem_places_distinct.trans all

namespace PlaceSet

theorem base_insert (s : PlaceSet) (place : Nat) : (s.insert place).base = s.base := by
  rw [insert]
  split <;> rfl

theorem contains_insert_iff {s : PlaceSet} {added place : Nat} (room : s.base ≤ added) :
    (s.insert added).contains place = true ↔ s.contains place = true ∨ place = added := by
  rw [contains_insert, Bool.or_eq_true, Bool.and_eq_true, decide_eq_true_eq, decide_eq_true_eq,
    and_iff_right room, eq_comm (a := added)]

theorem contains_insert_of_contains {s : PlaceSet} {added place : Nat}
    (before : s.contains place = true) : (s.insert added).contains place = true := by
  rw [contains_insert, before, Bool.true_or]

end PlaceSet

namespace Pattern

theorem mem_places_sweep {text : Array Char} {s : CharSet} {token : Option Span} {other : Nat} :
    ∀ {fuel place : Nat} {shorter : List Arrival}, place + fuel = text.size + 1 →
      (other ∈ places (sweep text s token fuel place shorter) ↔
        other ∈ places shorter ∨ (run true s).Reaches text place other)
  | 0, place, shorter, room => by
      have none : ¬ (run true s).Reaches text place other := by
        rintro ⟨le, inside, _⟩
        omega
      rw [sweep, or_iff_left none]
  | fuel + 1, place, shorter, room => by
      have here : other ∈ places (⟨place, token⟩ :: shorter) ↔
          other ∈ places shorter ∨ other = place := by
        rw [places, List.map_cons, List.mem_cons, or_comm, places]
      have ends (stuck : ¬ s.StandsAt text place) :
          (run true s).Reaches text place other ↔ other = place := by
        constructor
        · rintro ⟨le, _, all⟩
          exact Nat.le_antisymm (Nat.not_lt.1 fun more => stuck (all place (Nat.le_refl _) more)) le
        · rintro rfl
          exact ⟨Nat.le_refl _, by omega, fun i low high => absurd high (Nat.not_lt.2 low)⟩
      rw [sweep]
      split
      · next past =>
        rw [here, ends (fun stands => by simp [CharSet.StandsAt, past] at stands)]
      · next c present =>
        by_cases goes : s.contains c = true
        · rw [if_pos goes, mem_places_sweep (by omega), here, or_assoc]
          refine or_congr_right ⟨?_, ?_⟩
          · rintro (rfl | ⟨le, inside, all⟩)
            · exact ⟨Nat.le_refl _, by omega, fun i low high => absurd high (Nat.not_lt.2 low)⟩
            · refine ⟨by omega, inside, fun i low high => ?_⟩
              rcases Nat.eq_or_lt_of_le low with rfl | later
              · exact (CharSet.standsAt_iff present).2 goes
              · exact all i later high
          · rintro ⟨le, inside, all⟩
            rcases Nat.eq_or_lt_of_le le with same | more
            · exact Or.inl same.symm
            · exact Or.inr ⟨more, inside, fun i low high => all i (by omega) high⟩
        · rw [if_neg goes, here, ends (mt (CharSet.standsAt_iff present).1 goes)]

theorem mem_places_runFrom {text : Array Char} {greedy : Bool} {s : CharSet} {a : Arrival}
    {other : Nat} :
    other ∈ places (runFrom text greedy s a) ↔ (run greedy s).Reaches text a.place other := by
  have swept : other ∈ places (runFrom text greedy s a) ↔
      other ∈ places (sweep text s a.token (text.size + 1 - a.place) a.place []) := by
    rw [runFrom]
    split
    · rfl
    · simp only [places, List.map_reverse, List.mem_reverse]
  rw [swept]
  by_cases inside : a.place ≤ text.size + 1
  · rw [mem_places_sweep (by omega)]
    simp only [places, List.map_nil, List.not_mem_nil, false_or, Reaches]
  · have none : text.size + 1 - a.place = 0 := by omega
    rw [none, sweep]
    refine ⟨fun member => absurd member List.not_mem_nil, ?_⟩
    rintro ⟨le, within, _⟩
    omega

/-! ## Repetitions -/

namespace Explored

/-- Going on with a search forgets nothing. -/
structure Extends (later earlier : Explored) : Prop where
  begunBase : later.begun.base = earlier.begun.base
  endedBase : later.ended.base = earlier.ended.base
  begun : ∀ place, earlier.begun.contains place = true → later.begun.contains place = true
  ended : ∀ place, earlier.ended.contains place = true → later.ended.contains place = true
  found : ∀ place ∈ places earlier.found, place ∈ places later.found

theorem Extends.refl (e : Explored) : e.Extends e :=
  ⟨rfl, rfl, fun _ seen => seen, fun _ seen => seen, fun _ found => found⟩

theorem Extends.trans {first second third : Explored} (one : second.Extends first)
    (two : third.Extends second) : third.Extends first where
  begunBase := two.begunBase.trans one.begunBase
  endedBase := two.endedBase.trans one.endedBase
  begun place seen := two.begun place (one.begun place seen)
  ended place seen := two.ended place (one.ended place seen)
  found place seen := two.found place (one.found place seen)

/-- The sets have room for a place. -/
def Covers (e : Explored) (place : Nat) : Prop := e.begun.base ≤ place ∧ e.ended.base ≤ place

theorem Covers.extends {earlier later : Explored} {place : Nat} (covers : earlier.Covers place)
    (more : later.Extends earlier) : later.Covers place :=
  ⟨more.begunBase.symm ▸ covers.1, more.endedBase.symm ▸ covers.2⟩

theorem extends_begin (e : Explored) (a : Arrival) : (e.begin a).Extends e :=
  ⟨PlaceSet.base_insert _ _, rfl, fun _ => PlaceSet.contains_insert_of_contains, fun _ seen => seen,
    fun _ found => found⟩

theorem extends_close (e : Explored) (a : Arrival) : (e.close a).Extends e :=
  ⟨rfl, PlaceSet.base_insert _ _, fun _ seen => seen, fun _ => PlaceSet.contains_insert_of_contains,
    fun _ found => found⟩

theorem extends_stop (e : Explored) (a : Arrival) : (e.stop a).Extends e := by
  rw [stop]
  split
  · exact .refl e
  · exact ⟨rfl, rfl, fun _ seen => seen, fun _ seen => seen,
      fun _ found => List.mem_cons_of_mem _ found⟩

/-- The sets have room for a place, and unless rounds have begun there the fuel is enough for
all that can follow one another from there on. -/
structure Fueled (size fuel : Nat) (e : Explored) (place : Nat) : Prop where
  covers : e.Covers place
  enough : e.begun.contains place = true ∨ (0 < fuel ∧ size < place + fuel)

theorem Fueled.extends {earlier later : Explored} {size fuel place : Nat}
    (fueled : earlier.Fueled size fuel place) (more : later.Extends earlier) :
    later.Fueled size fuel place :=
  ⟨fueled.covers.extends more, fueled.enough.imp_left (more.begun place)⟩

/-- One round takes no more than one unit of fuel: where it stays, rounds have begun. -/
theorem Fueled.next {e : Explored} {size fuel next : Nat} {a : Arrival}
    (fueled : e.Fueled size (fuel + 1) a.place) (unseen : ¬ e.begun.contains a.place = true)
    (onward : next = a.place ∨ (a.place < next ∧ next ≤ size)) :
    (e.begin a).Fueled size fuel next := by
  have covers := fueled.covers.extends (e.extends_begin a)
  refine ⟨⟨Nat.le_trans covers.1 (by omega), Nat.le_trans covers.2 (by omega)⟩, ?_⟩
  rcases onward with rfl | moves
  · exact Or.inl ((PlaceSet.contains_insert_iff fueled.covers.1).2 (Or.inr rfl))
  · have := fueled.enough.resolve_left unseen
    exact Or.inr ⟨by omega, by omega⟩

variable {R : Nat → Nat → Prop}

/-- Whatever a round leads to from a place is the end of one. -/
def Followed (R : Nat → Nat → Prop) (e : Explored) (place : Nat) : Prop :=
  ∀ next, R place next → e.ended.contains next = true

/-- Rounds begin at a place, and the repetition may stop there. -/
def Left (e : Explored) (place : Nat) : Prop :=
  e.begun.contains place = true ∧ place ∈ places e.found

/-- All rounds have been followed from where they began and left where they ended, but for the
places that are still open. -/
structure Settled (R : Nat → Nat → Prop) (within between : Nat → Prop) (e : Explored) : Prop where
  stops : ∀ place, e.stops.contains place = true → place ∈ places e.found
  begun : ∀ place, e.begun.contains place = true → within place ∨ e.Followed R place
  ended : ∀ place, e.ended.contains place = true → between place ∨ e.Left place

theorem Followed.extends {earlier later : Explored} {place : Nat}
    (followed : earlier.Followed R place) (more : later.Extends earlier) : later.Followed R place :=
  fun next leads => more.ended next (followed next leads)

theorem Left.extends {earlier later : Explored} {place : Nat} (left : earlier.Left place)
    (more : later.Extends earlier) : later.Left place :=
  ⟨more.begun place left.1, more.found place left.2⟩

namespace Settled

variable {within between : Nat → Prop} {e : Explored} {other : Nat}

theorem begin (settled : e.Settled R within between) {a : Arrival} (covers : e.Covers a.place) :
    (e.begin a).Settled R (fun place => within place ∨ place = a.place) between where
  stops := settled.stops
  begun place seen := by
    rcases (PlaceSet.contains_insert_iff covers.1).1 seen with before | rfl
    · exact (settled.begun place before).imp_left Or.inl
    · exact Or.inl (Or.inr rfl)
  ended place seen :=
    (settled.ended place seen).imp_right fun left => left.extends (e.extends_begin a)

theorem close (settled : e.Settled R within between) {a : Arrival} (covers : e.Covers a.place) :
    (e.close a).Settled R within fun place => between place ∨ place = a.place where
  stops := settled.stops
  begun place seen :=
    (settled.begun place seen).imp_right fun followed => followed.extends (e.extends_close a)
  ended place seen := by
    rcases (PlaceSet.contains_insert_iff covers.2).1 seen with before | rfl
    · exact (settled.ended place before).imp_left Or.inl
    · exact Or.inl (Or.inr rfl)

theorem stop (settled : e.Settled R within between) (a : Arrival) :
    (e.stop a).Settled R within between := by
  rw [Explored.stop]
  split
  · exact settled
  · refine ⟨fun place seen => ?_, settled.begun, fun place seen => ?_⟩
    · rw [PlaceSet.contains_insert, Bool.or_eq_true, Bool.and_eq_true, decide_eq_true_eq,
        decide_eq_true_eq] at seen
      rcases seen with before | ⟨_, rfl⟩
      · exact List.mem_cons_of_mem _ (settled.stops place before)
      · exact List.mem_cons_self
    · exact (settled.ended place seen).imp_right fun left =>
        ⟨left.1, List.mem_cons_of_mem _ left.2⟩

theorem mem_places_stop (settled : e.Settled R within between) (a : Arrival) :
    a.place ∈ places (e.stop a).found := by
  rw [Explored.stop]
  split
  · next before => exact settled.stops a.place before
  · exact List.mem_cons_self

/-- A place from which rounds have been followed is open no more. -/
theorem of_followed (settled : e.Settled R (fun place => within place ∨ place = other) between)
    (done : e.Followed R other) : e.Settled R within between where
  stops := settled.stops
  begun place seen := by
    rcases settled.begun place seen with (still | rfl) | followed
    · exact Or.inl still
    · exact Or.inr done
    · exact Or.inr followed
  ended := settled.ended

/-- The end of a round that has been left is open no more. -/
theorem of_left (settled : e.Settled R within fun place => between place ∨ place = other)
    (done : e.Left other) : e.Settled R within between where
  stops := settled.stops
  begun := settled.begun
  ended place seen := by
    rcases settled.ended place seen with (still | rfl) | left
    · exact Or.inl still
    · exact Or.inr done
    · exact Or.inr left

/-- With nothing open, whatever rounds lead to from where rounds began has been left. -/
theorem left_of_reach (settled : e.Settled R (fun _ => False) fun _ => False) {place : Nat}
    (begun : e.begun.contains place = true) (reach : Relation.TransGen R place other) :
    e.Left other := by
  have next {place other : Nat} (begun : e.begun.contains place = true) (leads : R place other) :
      e.Left other :=
    (settled.ended other ((settled.begun place begun).resolve_left id other leads)).resolve_left id
  induction reach with
  | single leads => exact next begun leads
  | tail _ leads ih => exact next ih.1 leads

end Settled

end Explored

section Exploring

variable {R : Nat → Nat → Prop} {size : Nat} {step : Arrival → List Arrival} {greedy : Bool}
  {within between : Nat → Prop} {search : Arrival → Explored → Explored}

/-! ### Nothing is forgotten -/

theorem extends_foldl {visit : Explored → Arrival → Explored}
    (each : ∀ e b, (visit e b).Extends e) (arrivals : List Arrival) (e : Explored) :
    (arrivals.foldl visit e).Extends e :=
  List.foldlRecOn (motive := fun later => later.Extends e) arrivals visit (.refl e)
    fun later more b _ => more.trans (each later b)

theorem extends_proceed {a : Arrival} (deeper : ∀ e, (search a e).Extends e) (e : Explored) :
    (proceed search greedy e a).Extends e := by
  rw [proceed]
  split
  · exact (deeper e).trans ((search a e).extends_stop a)
  · exact (e.extends_stop a).trans (deeper (e.stop a))

theorem extends_visit {b : Arrival} (deeper : ∀ e, (search b e).Extends e) (e : Explored) :
    (visit search greedy e b).Extends e := by
  rw [visit]
  split
  · exact .refl e
  · exact (e.extends_close b).trans (extends_proceed deeper (e.close b))

theorem extends_explore (step : Arrival → List Arrival) (greedy : Bool) :
    ∀ (fuel : Nat) (a : Arrival) (e : Explored), (explore step greedy fuel a e).Extends e
  | 0, _, e => .refl e
  | fuel + 1, a, e => by
      rw [explore]
      split
      · exact .refl e
      · exact (e.extends_begin a).trans (extends_foldl
          (fun e b => extends_visit (extends_explore step greedy fuel b) e) (step a) (e.begin a))

/-! ### Everything is settled -/

/-- One round of a repetition leads further on, inside the text unless it stays. -/
def LeadsOn (size : Nat) (R : Nat → Nat → Prop) : Prop :=
  ∀ place next, R place next → next = place ∨ (place < next ∧ next ≤ size)

/-- A search from an arrival begins rounds there and leaves nothing open but what was. -/
def Settles (R : Nat → Nat → Prop) (search : Arrival → Explored → Explored) (a : Arrival)
    (e : Explored) : Prop :=
  ∀ within between : Nat → Prop, e.Settled R within between →
    (search a e).begun.contains a.place = true ∧ (search a e).Settled R within between

/-- Some arrivals are gone through one after the other, and what one of them comes to is not
undone by the others. -/
theorem settled_foldl (visit : Explored → Arrival → Explored) (Done : Explored → Arrival → Prop)
    (grows : ∀ e b, (visit e b).Extends e)
    (kept : ∀ {earlier later : Explored} {b : Arrival}, later.Extends earlier → Done earlier b →
      Done later b) {arrivals : List Arrival} {e : Explored}
    (each : ∀ b ∈ arrivals, ∀ later : Explored, later.Extends e → later.Settled R within between →
      Done (visit later b) b ∧ (visit later b).Settled R within between)
    (settled : e.Settled R within between) :
    let last := arrivals.foldl visit e
    (∀ b ∈ arrivals, Done last b) ∧ last.Settled R within between := by
  induction arrivals generalizing e with
  | nil => exact ⟨List.forall_mem_nil _, settled⟩
  | cons b rest ih =>
      obtain ⟨done, settled'⟩ := each b List.mem_cons_self e (.refl e) settled
      obtain ⟨others, last⟩ := ih (fun c member later more =>
        each c (List.mem_cons_of_mem _ member) later ((grows e b).trans more)) settled'
      exact ⟨List.forall_mem_cons.2 ⟨kept (extends_foldl grows rest _) done, others⟩, last⟩

variable (greedy) in
theorem settled_proceed {e : Explored} {a : Arrival} (grows : ∀ e, (search a e).Extends e)
    (deeper : ∀ later : Explored, later.Extends e → Settles R search a later)
    (settled : e.Settled R within between) :
    (proceed search greedy e a).Left a.place ∧
      (proceed search greedy e a).Settled R within between := by
  rw [proceed]
  split
  · obtain ⟨begun, last⟩ := deeper e (.refl e) within between settled
    exact ⟨⟨((search a e).extends_stop a).begun _ begun, last.mem_places_stop a⟩, last.stop a⟩
  · obtain ⟨begun, last⟩ := deeper (e.stop a) (e.extends_stop a) within between (settled.stop a)
    exact ⟨⟨begun, (grows (e.stop a)).found _ (settled.mem_places_stop a)⟩, last⟩

theorem settled_visit {e : Explored} {b : Arrival} (grows : ∀ e, (search b e).Extends e)
    (deeper : ∀ later : Explored, later.Extends e → Settles R search b later)
    (covers : e.Covers b.place) (settled : e.Settled R within between) :
    (visit search greedy e b).ended.contains b.place = true ∧
      (visit search greedy e b).Settled R within between := by
  rw [visit]
  split
  · next seen => exact ⟨seen, settled⟩
  · have closes := e.extends_close b
    obtain ⟨left, last⟩ := settled_proceed greedy grows
      (fun later more => deeper later (closes.trans more)) (settled.close covers)
    have ended : (e.close b).ended.contains b.place = true :=
      (PlaceSet.contains_insert_iff covers.2).2 (Or.inr rfl)
    exact ⟨(extends_proceed grows (e.close b)).ended _ ended, last.of_left left⟩

/-- **Exploring settles what it begins**, up to what is still open. -/
theorem settles_explore (steps : ∀ a next, next ∈ places (step a) ↔ R a.place next)
    (onward : LeadsOn size R) :
    ∀ (fuel : Nat) (a : Arrival) (e : Explored), e.Fueled size fuel a.place →
      Settles R (explore step greedy fuel) a e
  | 0, a, e, fueled => fun within between settled =>
      ⟨fueled.enough.resolve_right fun none => absurd none.1 (Nat.lt_irrefl 0), settled⟩
  | fuel + 1, a, e, fueled => fun within between settled => by
      rw [explore]
      split
      · next seen => exact ⟨seen, settled⟩
      · next unseen =>
        let visits := visit (explore step greedy fuel) greedy
        have grows (e : Explored) (b : Arrival) : (visits e b).Extends e :=
          extends_visit (extends_explore step greedy fuel b) e
        have begun : (e.begin a).begun.contains a.place = true :=
          (PlaceSet.contains_insert_iff fueled.covers.1).2 (Or.inr rfl)
        have each (b : Arrival) (member : b ∈ step a) (later : Explored)
            (more : later.Extends (e.begin a))
            (settled : later.Settled R (fun place => within place ∨ place = a.place) between) :
            (visits later b).ended.contains b.place = true ∧
              (visits later b).Settled R (fun place => within place ∨ place = a.place) between := by
          have leads := (steps a b.place).1 (List.mem_map_of_mem member)
          have fueled' := (fueled.next unseen (onward a.place b.place leads)).extends more
          exact settled_visit (extends_explore step greedy fuel b)
            (fun last further => settles_explore steps onward fuel b last (fueled'.extends further))
            fueled'.covers settled
        obtain ⟨ended, last⟩ := settled_foldl visits (fun e b => e.ended.contains b.place = true)
          grows (fun more done => more.ended _ done) each (settled.begin fueled.covers)
        refine ⟨(extends_foldl grows (step a) _).begun _ begun,
          last.of_followed fun next reached => ?_⟩
        obtain ⟨b, member, rfl⟩ := mem_places_iff.1 ((steps a next).2 reached)
        exact ended b member

theorem leastPlace_le (low : Nat) (arrivals : List Arrival) :
    leastPlace low arrivals ≤ low ∧ ∀ a ∈ arrivals, leastPlace low arrivals ≤ a.place := by
  induction arrivals generalizing low with
  | nil => exact ⟨Nat.le_refl _, fun _ member => absurd member List.not_mem_nil⟩
  | cons b rest ih =>
      have least := ih (min low b.place)
      refine ⟨Nat.le_trans least.1 (Nat.min_le_left _ _), fun a member => ?_⟩
      rcases List.mem_cons.1 member with rfl | later
      · exact Nat.le_trans least.1 (Nat.min_le_right _ _)
      · exact least.2 a later

/-- As much fuel as the text has places is enough. -/
theorem fueled_unexplored (size : Nat) {sources : List Arrival} {a : Arrival}
    (source : a ∈ sources) : (unexplored sources).Fueled size (size + 1) a.place := by
  refine ⟨?_, Or.inr ⟨Nat.succ_pos size, by omega⟩⟩
  cases sources with
  | nil => exact absurd source List.not_mem_nil
  | cons first rest =>
      have least : ∀ b ∈ first :: rest, leastPlace first.place rest ≤ b.place :=
        List.forall_mem_cons.2 (leastPlace_le first.place rest)
      exact ⟨least a source, least a source⟩

theorem settled_unexplored (sources : List Arrival) :
    (unexplored sources).Settled R (fun _ => False) fun _ => False := by
  have nothing {base place : Nat} : ¬ (PlaceSet.above base).contains place = true := by
    rw [PlaceSet.contains_above]
    exact Bool.false_ne_true
  cases sources <;>
    exact ⟨fun _ seen => absurd seen nothing, fun _ seen => absurd seen nothing,
      fun _ seen => absurd seen nothing⟩

section Reached

variable (steps : ∀ a next, next ∈ places (step a) ↔ R a.place next) {sources : List Arrival}
  {other : Nat}
include steps

/-- A repetition leads to nothing but the places that rounds lead to. -/
theorem reach_of_mem_starFrom (member : other ∈ places (starFrom size step greedy sources)) :
    ∃ a ∈ sources, Relation.ReflTransGen R a.place other := by
  obtain ⟨b, found, rfl⟩ := mem_places_iff.1 member
  refine forall_mem_starFrom
    (P := fun b => ∃ a ∈ sources, Relation.ReflTransGen R a.place b.place) ?_ size
    (fun a source => ⟨a, source, .refl⟩) b found
  rintro a ⟨s, source, reach⟩ b next
  exact ⟨s, source, reach.tail ((steps a b.place).1 (List.mem_map_of_mem next))⟩

theorem reach_of_mem_plusFrom (member : other ∈ places (plusFrom size step greedy sources)) :
    ∃ a ∈ sources, Relation.TransGen R a.place other := by
  obtain ⟨b, found, rfl⟩ := mem_places_iff.1 member
  refine forall_mem_plusFrom
    (P := fun b => ∃ a ∈ sources, Relation.TransGen R a.place b.place) ?_ size
    (fun a source b next => ⟨a, source, .single ((steps a b.place).1 (List.mem_map_of_mem next))⟩)
    b found
  rintro a ⟨s, source, reach⟩ b next
  exact ⟨s, source, reach.tail ((steps a b.place).1 (List.mem_map_of_mem next))⟩

variable (onward : LeadsOn size R)
include onward

theorem settles_explore_source {a : Arrival} (source : a ∈ sources) {e : Explored}
    (more : e.Extends (unexplored sources)) : Settles R (explore step greedy (size + 1)) a e :=
  settles_explore steps onward (size + 1) a e ((fueled_unexplored size source).extends more)

/-- **A repetition leads to the places that rounds lead to**: where rounds have begun they are
followed to all their ends, and every end is left again. -/
theorem mem_places_starFrom :
    other ∈ places (starFrom size step greedy sources) ↔
      ∃ a ∈ sources, Relation.ReflTransGen R a.place other := by
  refine ⟨reach_of_mem_starFrom steps, ?_⟩
  rintro ⟨a, source, reach⟩
  have grows := extends_explore step greedy (size + 1)
  obtain ⟨left, last⟩ := settled_foldl (proceed (explore step greedy (size + 1)) greedy)
    (fun e b => e.Left b.place) (fun e b => extends_proceed (grows b) e)
    (fun more left => left.extends more)
    (fun b member e more settled => settled_proceed greedy (grows b) (fun later further =>
      settles_explore_source steps onward member (more.trans further)) settled)
    (settled_unexplored (R := R) sources)
  rw [starFrom, places, List.map_reverse, List.mem_reverse]
  rcases Relation.reflTransGen_iff_eq_or_transGen.1 reach with same | reach
  · exact same ▸ (left a source).2
  · exact (last.left_of_reach (left a source).1 reach).2

theorem mem_places_plusFrom :
    other ∈ places (plusFrom size step greedy sources) ↔
      ∃ a ∈ sources, Relation.TransGen R a.place other := by
  refine ⟨reach_of_mem_plusFrom steps, ?_⟩
  rintro ⟨a, source, reach⟩
  obtain ⟨begun, last⟩ := settled_foldl (fun e a => explore step greedy (size + 1) a e)
    (fun e b => e.begun.contains b.place = true)
    (fun e b => extends_explore step greedy (size + 1) b e) (fun more begun => more.begun _ begun)
    (fun b member e more settled => settles_explore_source steps onward member more _ _ settled)
    (settled_unexplored (R := R) sources)
  rw [plusFrom, places, List.map_reverse, List.mem_reverse]
  exact (last.left_of_reach (begun a source) reach).2

end Reached

end Exploring

/-! ## Matching -/

/-- A pattern leads further on, inside the text unless it stays. -/
theorem Reaches.onward {text : Array Char} {p : Pattern} {place other : Nat}
    (reaches : p.Reaches text place other) :
    other = place ∨ (place < other ∧ other ≤ text.size) := by
  induction p generalizing place other with
  | empty => exact Or.inl reaches
  | one s =>
      obtain ⟨rfl, stands⟩ := reaches
      exact Or.inr ⟨Nat.lt_succ_self _, stands.lt_size⟩
  | assert condition => exact Or.inl reaches.1
  | cat p q ihp ihq =>
      obtain ⟨between, first, second⟩ := reaches
      have := ihp first
      have := ihq second
      omega
  | alt p q ihp ihq => exact reaches.elim ihp ihq
  | run greedy s =>
      obtain ⟨le, inside, _⟩ := reaches
      omega
  | star greedy p ih =>
      induction reaches with
      | refl => exact Or.inl rfl
      | tail _ leads ih' =>
          have := ih leads
          omega
  | plus greedy p ih =>
      induction reaches with
      | single leads => exact ih leads
      | tail _ leads ih' =>
          have := ih leads
          omega
  | token p ih => exact ih reaches

theorem Reaches.le {text : Array Char} {p : Pattern} {place other : Nat}
    (reaches : p.Reaches text place other) : place ≤ other := by
  have := reaches.onward
  omega

/-- **Matching computes what a pattern reaches**: nothing else, and all of it. -/
theorem mem_places_advance_iff (text : Array Char) :
    ∀ (p : Pattern) (sources : List Arrival) (other : Nat),
      other ∈ places (advance text p sources) ↔ ∃ a ∈ sources, p.Reaches text a.place other
  | empty, sources, other => by
      simp only [advance, mem_places_iff, Reaches, eq_comm]
  | one s, sources, other => by
      simp only [advance, mem_places_iff, List.mem_filterMap, Reaches]
      constructor
      · rintro ⟨b, ⟨a, source, found⟩, rfl⟩
        refine ⟨a, source, ?_⟩
        split at found
        · cases found
        · next c present =>
          split at found
          · next inside =>
            cases found
            exact ⟨rfl, (CharSet.standsAt_iff present).2 inside⟩
          · cases found
      · rintro ⟨a, source, rfl, stands⟩
        refine ⟨⟨a.place + 1, a.token⟩, ⟨a, source, ?_⟩, rfl⟩
        have present := Array.getElem?_eq_getElem stands.lt_size
        rw [present]
        exact if_pos ((CharSet.standsAt_iff present).1 stands)
  | assert condition, sources, other => by
      simp only [advance, mem_places_iff, List.mem_filter, Reaches]
      constructor
      · rintro ⟨b, ⟨source, holds⟩, rfl⟩
        exact ⟨b, source, rfl, holds⟩
      · rintro ⟨a, source, rfl, holds⟩
        exact ⟨a, ⟨source, holds⟩, rfl⟩
  | cat p q, sources, other => by
      rw [advance, mem_places_advance_iff text q]
      constructor
      · rintro ⟨b, found, second⟩
        obtain ⟨a, source, first⟩ :=
          (mem_places_advance_iff text p sources b.place).1 (List.mem_map_of_mem found)
        exact ⟨a, source, b.place, first, second⟩
      · rintro ⟨a, source, between, first, second⟩
        obtain ⟨b, found, rfl⟩ := mem_places_iff.1
          ((mem_places_advance_iff text p sources between).2 ⟨a, source, first⟩)
        exact ⟨b, found, second⟩
  | alt p q, sources, other => by
      simp only [advance, mem_places_gather, mem_places_distinct, mem_places_append,
        mem_places_advance_iff text p, mem_places_advance_iff text q, List.mem_singleton,
        exists_eq_left, Reaches]
  | run greedy s, sources, other => by
      simp only [advance, mem_places_gather, mem_places_runFrom]
  | star greedy p, sources, other => by
      rw [advance]
      refine mem_places_starFrom (fun a next => ?_) fun place next leads => leads.onward
      simp only [mem_places_advance_iff text p, List.mem_singleton, exists_eq_left]
  | plus greedy p, sources, other => by
      rw [advance]
      refine mem_places_plusFrom (fun a next => ?_) fun place next leads => leads.onward
      simp only [mem_places_advance_iff text p, List.mem_singleton, exists_eq_left]
  | token p, sources, other => by
      have moved (arrivals : List Arrival) (a : Arrival) :
          places (arrivals.map fun b => ⟨b.place, some ⟨a.place, b.place⟩⟩) = places arrivals := by
        simp only [places, List.map_map, Function.comp_def]
      simp only [advance, mem_places_gather, moved, mem_places_advance_iff text p,
        List.mem_singleton, exists_eq_left, Reaches]

/-- A pattern matches at a place exactly if it reaches something from there. -/
theorem matchAt_ne_none_iff {p : Pattern} {text : Array Char} {place : Nat} :
    p.matchAt text place ≠ none ↔ ∃ other, p.Reaches text place other := by
  have reached (other : Nat) := mem_places_advance_iff text p [⟨place, none⟩] other
  simp only [List.mem_singleton, exists_eq_left] at reached
  simp only [← reached, matchAt, ne_eq, Option.map_eq_none_iff, List.head?_eq_none_iff]
  constructor
  · intro some
    obtain ⟨b, found⟩ := List.exists_mem_of_ne_nil _ some
    exact ⟨b.place, List.mem_map_of_mem found⟩
  · rintro ⟨other, member⟩ none
    rw [none] at member
    exact absurd member List.not_mem_nil

/-- What a match covers is reached. -/
theorem reaches_of_matchAt {p : Pattern} {text : Array Char} {place : Nat} {m : Match}
    (found : p.matchAt text place = some m) : p.Reaches text place m.whole.stop := by
  simp only [matchAt, Option.map_eq_some_iff] at found
  obtain ⟨b, first, rfl⟩ := found
  have member := List.mem_map_of_mem (f := Arrival.place) (List.mem_of_head? first)
  obtain ⟨a, only, reaches⟩ := (mem_places_advance_iff text p _ b.place).1 member
  rw [List.mem_singleton.1 only] at reaches
  exact reaches

end Pattern

end Highlight
