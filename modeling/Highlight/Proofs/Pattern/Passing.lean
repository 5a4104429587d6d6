import Highlight.Proofs.Pattern.Reach

/-!
# What a pattern passes over

Every character of a match belongs to one of the sets that the pattern is built from
(`Pattern.Reaches.stands`). So a pattern none of whose sets has some character stays before
it (`Pattern.Reaches.le_of_avoids`), and whether a pattern can begin with a character at all
is read off the pattern (`Pattern.not_reaches_of_rejects`).

Characters one after another are the usual case of a pattern: they are reached exactly
where they stand (`Pattern.reaches_literal_iff`).
-/

namespace Highlight

set_option autoImplicit false

/-- Some characters stand in a text from a place on. -/
def StandAt (text : Array Char) : List Char → Nat → Prop
  | [], _ => True
  | c :: rest, place => text[place]? = some c ∧ StandAt text rest (place + 1)

theorem standAt_append_iff {text : Array Char} {first second : List Char} {place : Nat} :
    StandAt text (first ++ second) place ↔
      StandAt text first place ∧ StandAt text second (place + first.length) := by
  induction first generalizing place with
  | nil => simp only [List.nil_append, StandAt, true_and, List.length_nil, Nat.add_zero]
  | cons c rest ih =>
      simp only [List.cons_append, StandAt, ih, and_assoc, List.length_cons]
      rw [Nat.add_assoc, Nat.add_comm 1]

theorem standAt_toArray (before cs : List Char) :
    StandAt (before ++ cs).toArray cs before.length := by
  induction cs generalizing before with
  | nil => trivial
  | cons c rest ih =>
      refine ⟨by simp, ?_⟩
      have later := ih (before ++ [c])
      rwa [List.append_assoc, List.singleton_append, List.length_append] at later

theorem StandAt.getElem? {text : Array Char} {cs : List Char} {place i : Nat}
    (stand : StandAt text cs place) (inside : i < cs.length) : text[place + i]? = cs[i]? := by
  induction cs generalizing place i with
  | nil => exact absurd inside (Nat.not_lt_zero i)
  | cons c rest ih =>
      cases i with
      | zero => exact stand.1
      | succ i =>
          have later := ih stand.2 (Nat.lt_of_succ_lt_succ inside)
          rw [List.getElem?_cons_succ, ← later, Nat.add_assoc, Nat.add_comm 1]

/-- What stands within a stretch of a text is a part of it. -/
theorem StandAt.isInfix {text : Array Char} {cs whole : List Char} {place start : Nat}
    (stand : StandAt text cs place) (around : StandAt text whole start) (low : start ≤ place)
    (high : place + cs.length ≤ start + whole.length) : cs <:+: whole := by
  have same : cs = (whole.drop (place - start)).take cs.length := by
    refine List.ext_getElem? fun i => ?_
    by_cases inside : i < cs.length
    · rw [List.getElem?_take_of_lt inside, List.getElem?_drop, ← stand.getElem? inside,
        ← around.getElem? (by omega)]
      congr 1
      omega
    · rw [List.getElem?_eq_none (Nat.not_lt.1 inside),
        List.getElem?_eq_none (by rw [List.length_take]; omega)]
  rw [same]
  exact (List.take_prefix _ _).isInfix.trans (List.drop_suffix _ _).isInfix

/-- What stands in a text lies in it. -/
theorem StandAt.le_size {text : Array Char} {cs : List Char} {place : Nat}
    (stand : StandAt text cs place) (nonempty : 0 < cs.length) : place + cs.length ≤ text.size := by
  induction cs generalizing place with
  | nil => exact absurd nonempty (Nat.lt_irrefl 0)
  | cons c rest ih =>
      have inside := (Array.getElem?_eq_some_iff.1 stand.1).1
      rw [List.length_cons]
      cases rest with
      | nil => exact inside
      | cons d others =>
          have := ih stand.2 (Nat.succ_pos _)
          omega

namespace Pattern

variable {text : Array Char} {place other i : Nat} {c : Char}

/-! ## Characters in between -/

/-- The sets that a pattern takes its characters from. -/
def sets : Pattern → List CharSet
  | empty => []
  | one s => [s]
  | assert _ => []
  | cat p q => p.sets ++ q.sets
  | alt p q => p.sets ++ q.sets
  | run _ s => [s]
  | star _ p => p.sets
  | plus _ p => p.sets
  | token p => p.sets

/-- Whether a pattern never takes a character. -/
def avoids (c : Char) (p : Pattern) : Bool := p.sets.all fun s => !s.contains c

/-- What rounds pass over belongs to the sets that each of them takes its characters from. -/
theorem stands_of_rounds {R : Nat → Nat → Prop} {sets : List CharSet}
    (each : ∀ {place other : Nat}, R place other → place ≤ i → i < other →
      ∃ s ∈ sets, s.StandsAt text i)
    (rounds : Relation.ReflTransGen R place other) (low : place ≤ i) (high : i < other) :
    ∃ s ∈ sets, s.StandsAt text i := by
  induction rounds with
  | refl => omega
  | @tail between other _ leads ih =>
      by_cases before : i < between
      · exact ih before
      · exact each leads (Nat.not_lt.1 before) high

/-- **What a pattern passes over belongs to its sets.** -/
theorem Reaches.stands {p : Pattern} (reaches : p.Reaches text place other) (low : place ≤ i)
    (high : i < other) : ∃ s ∈ p.sets, s.StandsAt text i := by
  induction p generalizing place other with
  | empty =>
      obtain rfl : other = place := reaches
      omega
  | one s =>
      obtain ⟨rfl, stands⟩ := reaches
      obtain rfl : i = place := by omega
      exact ⟨s, List.mem_singleton_self s, stands⟩
  | assert condition =>
      obtain ⟨rfl, _⟩ := reaches
      omega
  | cat p q ihp ihq =>
      obtain ⟨between, first, second⟩ := reaches
      by_cases before : i < between
      · obtain ⟨s, member, stands⟩ := ihp first low before
        exact ⟨s, List.mem_append_left _ member, stands⟩
      · obtain ⟨s, member, stands⟩ := ihq second (Nat.not_lt.1 before) high
        exact ⟨s, List.mem_append_right _ member, stands⟩
  | alt p q ihp ihq =>
      rcases reaches with first | second
      · obtain ⟨s, member, stands⟩ := ihp first low high
        exact ⟨s, List.mem_append_left _ member, stands⟩
      · obtain ⟨s, member, stands⟩ := ihq second low high
        exact ⟨s, List.mem_append_right _ member, stands⟩
  | run greedy s => exact ⟨s, List.mem_singleton_self s, reaches.2.2 i low high⟩
  | star greedy p ih => exact stands_of_rounds (fun leads => ih leads) reaches low high
  | plus greedy p ih =>
      exact stands_of_rounds (fun leads => ih leads) reaches.to_reflTransGen low high
  | token p ih => exact ih reaches low high

/-- A pattern stays before a character that it never takes. -/
theorem Reaches.le_of_avoids {p : Pattern} (reaches : p.Reaches text place other)
    (avoids : p.avoids c = true) (present : text[i]? = some c) (low : place ≤ i) : other ≤ i := by
  refine Nat.not_lt.1 fun high => ?_
  obtain ⟨s, member, stands⟩ := reaches.stands low high
  have without := List.all_eq_true.1 avoids s member
  rw [(CharSet.standsAt_iff present).1 stands] at without
  exact absurd without Bool.false_ne_true

/-- Whether a pattern cannot begin with a character. -/
def rejects (c : Char) : Pattern → Bool
  | empty => false
  | one s => !s.contains c
  | assert _ => false
  | cat p q => p.rejects c || (p.avoids c && q.rejects c)
  | alt p q => p.rejects c && q.rejects c
  | run _ _ => false
  | star _ _ => false
  | plus _ p => p.rejects c
  | token p => p.rejects c

/-- **A pattern does not match where a character stands that it cannot begin with.** -/
theorem not_reaches_of_rejects {p : Pattern} (rejects : p.rejects c = true)
    (present : text[place]? = some c) : ¬ p.Reaches text place other := by
  induction p generalizing other with
  | empty => cases rejects
  | one s =>
      rintro ⟨_, stands⟩
      rw [Pattern.rejects, (CharSet.standsAt_iff present).1 stands] at rejects
      cases rejects
  | assert condition => cases rejects
  | cat p q ihp ihq =>
      rintro ⟨between, first, second⟩
      rw [Pattern.rejects, Bool.or_eq_true, Bool.and_eq_true] at rejects
      rcases rejects with rejects | ⟨avoids, rejects⟩
      · exact ihp rejects first
      · have stays := Nat.le_antisymm (first.le_of_avoids avoids present (Nat.le_refl _)) first.le
        exact ihq rejects (stays ▸ second)
  | alt p q ihp ihq =>
      rw [Pattern.rejects, Bool.and_eq_true] at rejects
      rintro (first | second)
      · exact ihp rejects.1 first
      · exact ihq rejects.2 second
  | run greedy s => cases rejects
  | star greedy p ih => cases rejects
  | plus greedy p ih =>
      intro reaches
      obtain ⟨_, leads, _⟩ := Relation.TransGen.head'_iff.1 reaches
      exact ih rejects leads
  | token p ih => exact ih rejects

/-- The condition that a pattern begins with, if it begins with one. -/
def firstAssertion? : Pattern → Option Assertion
  | assert a => some a
  | cat p _ => p.firstAssertion?
  | _ => none

theorem Reaches.holds {p : Pattern} {a : Assertion} (first : p.firstAssertion? = some a)
    (reaches : p.Reaches text place other) : a.holds text place = true := by
  induction p generalizing other with
  | assert condition =>
      obtain rfl : condition = a := Option.some.inj first
      exact reaches.2
  | cat p q ihp ihq =>
      obtain ⟨between, reaches, _⟩ := reaches
      exact ihp first reaches
  | empty => cases first
  | one s => cases first
  | alt p q ihp ihq => cases first
  | run greedy s => cases first
  | star greedy p ih => cases first
  | plus greedy p ih => cases first
  | token p ih => cases first

/-! ## Parts of patterns -/

/-- A part that takes nothing where some character stands. -/
theorem reaches_cat_of_avoids_iff {p q : Pattern} (avoids : p.avoids c = true)
    (present : text[place]? = some c) (stays : p.Reaches text place place) :
    (cat p q).Reaches text place other ↔ q.Reaches text place other := by
  constructor
  · rintro ⟨between, first, second⟩
    have same := Nat.le_antisymm (first.le_of_avoids avoids present (Nat.le_refl _)) first.le
    exact same ▸ second
  · exact fun second => ⟨place, stays, second⟩

theorem reaches_one_iff {s : CharSet} (present : text[place]? = some c) :
    (one s).Reaches text place other ↔ other = place + 1 ∧ s.contains c = true := by
  rw [Reaches, CharSet.standsAt_iff present]

theorem reaches_char_iff :
    (char c).Reaches text place other ↔ other = place + 1 ∧ text[place]? = some c := by
  rw [char, Reaches, CharSet.StandsAt]
  refine and_congr_right fun _ => ?_
  simp only [Option.any_eq_true, CharSet.contains_single, decide_eq_true_eq, exists_eq_right]

theorem reaches_noneOf_iff {cs : List Char} (present : text[place]? = some c) :
    (noneOf cs).Reaches text place other ↔ other = place + 1 ∧ c ∉ cs := by
  rw [noneOf, reaches_one_iff present, CharSet.contains_compl, CharSet.contains_ofList,
    Bool.not_eq_true', decide_eq_false_iff_not]

theorem reaches_opt_iff {p : Pattern} :
    (opt p).Reaches text place other ↔ p.Reaches text place other ∨ other = place :=
  Iff.rfl

theorem reaches_choice_iff {p q : Pattern} {rest : List Pattern} :
    (choice (p :: q :: rest)).Reaches text place other ↔
      p.Reaches text place other ∨ (choice (q :: rest)).Reaches text place other :=
  Iff.rfl

/-- At least one character of a set, and as many more as wanted. -/
theorem reaches_many1_iff {s : CharSet} :
    (many1 (one s)).Reaches text place other ↔
      place < other ∧ other ≤ text.size ∧ ∀ i, place ≤ i → i < other → s.StandsAt text i := by
  constructor
  · rintro ⟨_, ⟨rfl, first⟩, further, inside, rest⟩
    refine ⟨further, inside, fun i low high => ?_⟩
    rcases Nat.eq_or_lt_of_le low with rfl | later
    · exact first
    · exact rest i later high
  · rintro ⟨further, inside, all⟩
    exact ⟨place + 1, ⟨rfl, all place (Nat.le_refl _) further⟩, further, inside,
      fun i low => all i (Nat.le_of_succ_le low)⟩

/-- A run that goes on as long as there are characters of its set ends at one place only. -/
theorem Reaches.run_unique {s : CharSet} {greedy : Bool} {stop : Nat}
    (first : (run greedy s).Reaches text place stop) (ends : ¬ s.StandsAt text stop)
    (second : (run greedy s).Reaches text place other) (ends' : ¬ s.StandsAt text other) :
    stop = other := by
  rcases Nat.lt_trichotomy stop other with early | same | late
  · exact absurd (second.2.2 stop first.1 early) ends
  · exact same
  · exact absurd (first.2.2 other second.1 late) ends'

/-- Some characters behind a pattern. -/
theorem reaches_foldl_cat_iff {cs : List Char} {p : Pattern} :
    ((cs.map char).foldl cat p).Reaches text place other ↔
      ∃ between, p.Reaches text place between ∧ StandAt text cs between ∧
        other = between + cs.length := by
  induction cs generalizing p with
  | nil => simp only [List.map_nil, List.foldl_nil, StandAt, true_and, List.length_nil,
      Nat.add_zero, exists_eq_right']
  | cons c rest ih =>
      rw [List.map_cons, List.foldl_cons, ih]
      constructor
      · rintro ⟨_, ⟨between, first, stands⟩, later, rfl⟩
        obtain ⟨rfl, present⟩ := reaches_char_iff.1 stands
        exact ⟨between, first, ⟨present, later⟩, by rw [List.length_cons]; omega⟩
      · rintro ⟨between, first, ⟨present, later⟩, rfl⟩
        refine ⟨between + 1, ⟨between, first, reaches_char_iff.2 ⟨rfl, present⟩⟩, later, ?_⟩
        rw [List.length_cons]
        omega

/-- **Characters one after another are reached where they stand.** -/
theorem reaches_literal_iff {sign : String} :
    (literal sign).Reaches text place other ↔
      StandAt text sign.toList place ∧ other = place + sign.toList.length := by
  rw [literal]
  cases sign.toList with
  | nil => simp only [List.map_nil, seq, Reaches, StandAt, true_and, List.length_nil, Nat.add_zero]
  | cons c rest =>
      rw [List.map_cons, seq, reaches_foldl_cat_iff]
      simp only [reaches_char_iff, and_assoc, exists_eq_left, StandAt, List.length_cons]
      rw [Nat.add_assoc, Nat.add_comm 1]

end Pattern

end Highlight
