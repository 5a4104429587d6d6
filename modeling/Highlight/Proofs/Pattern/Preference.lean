import Highlight.Proofs.Pattern.Passing

/-!
# What a pattern prefers

A match is the first arrival. Where a pattern reaches one place only, that is the match, and
nothing more has to be known (`Pattern.tokenAt_of_unique`). Otherwise the order of the
arrivals counts: a run lists the places one after the other, the farthest first if it takes
as much as it can (`Pattern.runFrom_eq`), and leaving out places reached before does not touch
the first arrival (`head?_gather`).

A search finds the match at the first place where there is one (`Pattern.find_eq_some_iff`).
-/

namespace Highlight

set_option autoImplicit false

/-! ## The first arrival -/

theorem head?_distinct (arrivals : List Arrival) : (distinct arrivals).head? = arrivals.head? := by
  cases arrivals with
  | nil => rfl
  | cons a rest =>
      rw [distinct]
      split
      · rfl
      · rw [distinctFrom, PlaceSet.contains_above, if_neg Bool.false_ne_true, List.head?_cons,
          List.head?_cons]

/-- The first arrival from some sources is the first one from the first of them that leads
anywhere. -/
theorem head?_gather (step : Arrival → List Arrival) (sources : List Arrival) :
    (gather step sources).head? = sources.findSome? fun a => (step a).head? := by
  rw [← List.head?_flatMap]
  match sources with
  | [] => rfl
  | [a] => simp only [gather, List.flatMap_cons, List.flatMap_nil, List.append_nil]
  | a :: b :: rest => exact head?_distinct _

/-- What is gathered from the preferred source is preferred. -/
theorem head?_gather_of_first {step : Arrival → List Arrival} {sources : List Arrival}
    {a b : Arrival}
    (first : sources.head? = some a) (next : (step a).head? = some b) :
    (gather step sources).head? = some b := by
  obtain ⟨rest, rfl⟩ := List.head?_eq_some_iff.1 first
  rw [head?_gather, List.findSome?_cons, next]

/-- What is looked for among numbers in a row is found at the first of them that has it. -/
theorem findSome?_range' {α : Type} {f : Nat → Option α} {x : α} {start count stop : Nat}
    (low : start ≤ stop) (high : stop < start + count) (here : f stop = some x)
    (before : ∀ i, start ≤ i → i < stop → f i = none) :
    (List.range' start count).findSome? f = some x := by
  induction count generalizing start with
  | zero => omega
  | succ count ih =>
      rw [List.range'_succ, List.findSome?_cons]
      rcases Nat.eq_or_lt_of_le low with rfl | later
      · rw [here]
      · rw [before start (Nat.le_refl _) later]
        exact ih later (by omega) fun i after => before i (by omega)

/-- What is looked for is found where it is, if nothing else is found elsewhere. -/
theorem findSome?_of_forall {α β : Type} {f : α → Option β} {x : β} {l : List α} {a : α}
    (member : a ∈ l) (here : f a = some x) (all : ∀ b ∈ l, f b = none ∨ f b = some x) :
    l.findSome? f = some x := by
  cases found : l.findSome? f with
  | none =>
      rw [List.findSome?_eq_none_iff.1 found a member] at here
      cases here
  | some y =>
      obtain ⟨b, isMember, isFound⟩ := List.exists_of_findSome?_eq_some found
      have same := (all b isMember).resolve_left (isFound ▸ Option.some_ne_none y)
      exact isFound.symm.trans same

namespace Pattern

variable {text : Array Char} {p : Pattern} {place other : Nat}

/-- The arrivals of a run, if it is known where it has to stop. -/
theorem sweep_eq {s : CharSet} {token : Option Span} {stop : Nat}
    (inside : stop ≤ text.size) (ends : ¬ s.StandsAt text stop) :
    ∀ {fuel place : Nat} {shorter : List Arrival}, place ≤ stop → stop < place + fuel →
      (∀ i, place ≤ i → i < stop → s.StandsAt text i) →
      sweep text s token fuel place shorter =
        ((List.range' place (stop + 1 - place)).map (Arrival.mk · token)).reverse ++ shorter
  | 0, place, shorter, low, high, all => by omega
  | fuel + 1, place, shorter, low, high, all => by
      have here : stop + 1 - place = stop - place + 1 := by omega
      rw [sweep, here, List.range'_succ, List.map_cons, List.reverse_cons, List.append_assoc,
        List.singleton_append]
      rcases Nat.eq_or_lt_of_le low with rfl | later
      · rw [Nat.sub_self, List.range'_zero, List.map_nil, List.reverse_nil, List.nil_append]
        split
        · rfl
        · next c present => rw [if_neg (mt (CharSet.standsAt_iff present).2 ends)]
      · have stands := all place (Nat.le_refl _) later
        have present := Array.getElem?_eq_getElem stands.lt_size
        rw [present]
        simp only [(CharSet.standsAt_iff present).1 stands, if_true]
        rw [sweep_eq inside ends later (by omega) fun i after => all i (by omega)]
        have rest : stop + 1 - (place + 1) = stop - place := by omega
        rw [rest]

/-- **A run lists the places up to where it has to stop**, the farthest first if it takes as
much as it can. -/
theorem runFrom_eq {s : CharSet} {greedy : Bool} {a : Arrival} {stop : Nat}
    (inside : stop ≤ text.size) (ends : ¬ s.StandsAt text stop) (low : a.place ≤ stop)
    (all : ∀ i, a.place ≤ i → i < stop → s.StandsAt text i) :
    runFrom text greedy s a =
      let nearest := (List.range' a.place (stop + 1 - a.place)).map (Arrival.mk · a.token)
      if greedy then nearest.reverse else nearest := by
  rw [runFrom, sweep_eq inside ends low (by omega) all, List.append_nil, List.reverse_reverse]

/-! ## Tokens -/

/-- Whether a part of a pattern is singled out as the token. -/
def hasToken : Pattern → Bool
  | empty => false
  | one _ => false
  | assert _ => false
  | cat p q => p.hasToken || q.hasToken
  | alt p q => p.hasToken || q.hasToken
  | run _ _ => false
  | star _ p => p.hasToken
  | plus _ p => p.hasToken
  | token _ => true

theorem hasToken_foldl_cat (cs : List Char) (p : Pattern) :
    ((cs.map char).foldl cat p).hasToken = p.hasToken := by
  induction cs generalizing p with
  | nil => rfl
  | cons c rest ih =>
      rw [List.map_cons, List.foldl_cons, ih, hasToken, char, hasToken, Bool.or_false]

theorem hasToken_literal (sign : String) : (literal sign).hasToken = false := by
  rw [literal]
  cases sign.toList with
  | nil => rfl
  | cons c rest => rw [List.map_cons, seq, hasToken_foldl_cat, char, hasToken]

/-- A pattern without a token hands on the one it was given. -/
theorem token_of_mem_advance (text : Array Char) (given : Option Span) :
    ∀ {p : Pattern} {sources : List Arrival}, p.hasToken = false →
      (∀ a ∈ sources, a.token = given) → ∀ b ∈ advance text p sources, b.token = given
  | empty, sources, _, start, b, member => start b member
  | one s, sources, _, start, b, member => by
      obtain ⟨a, source, found⟩ := List.mem_filterMap.1 member
      split at found
      · cases found
      · split at found
        · cases found
          exact start a source
        · cases found
  | assert condition, sources, _, start, b, member => start b (List.mem_filter.1 member).1
  | cat p q, sources, noToken, start, b, member => by
      rw [hasToken, Bool.or_eq_false_iff] at noToken
      exact token_of_mem_advance text given noToken.2
        (token_of_mem_advance text given noToken.1 start) b member
  | alt p q, sources, noToken, start, b, member => by
      rw [hasToken, Bool.or_eq_false_iff] at noToken
      obtain ⟨a, source, found⟩ := exists_of_mem_gather member
      have only : ∀ c ∈ [a], c.token = given := fun c same =>
        List.mem_singleton.1 same ▸ start a source
      rcases List.mem_append.1 (mem_of_mem_distinct found) with found | found
      · exact token_of_mem_advance text given noToken.1 only b found
      · exact token_of_mem_advance text given noToken.2 only b found
  | run greedy s, sources, _, start, b, member => by
      obtain ⟨a, source, found⟩ := exists_of_mem_gather member
      have swept : b ∈ sweep text s a.token (text.size + 1 - a.place) a.place [] := by
        rw [runFrom] at found
        split at found
        · exact found
        · exact List.mem_reverse.1 found
      by_cases inside : a.place ≤ text.size
      · exact ((mem_sweep inside swept).resolve_left List.not_mem_nil).1.trans (start a source)
      · have none : text.size + 1 - a.place = 0 := by omega
        rw [none] at swept
        exact absurd swept List.not_mem_nil
  | star greedy p, sources, noToken, start, b, member =>
      forall_mem_starFrom (fun a is c next => token_of_mem_advance text given (p := p) noToken
        (fun d same => List.mem_singleton.1 same ▸ is) c next) text.size start b member
  | plus greedy p, sources, noToken, start, b, member => by
      have next (a : Arrival) (is : a.token = given) (c : Arrival) (next : c ∈ advance text p [a]) :
          c.token = given :=
        token_of_mem_advance text given (p := p) noToken
          (fun d same => List.mem_singleton.1 same ▸ is) c next
      exact forall_mem_plusFrom next text.size (fun a source => next a (start a source)) b member

/-- The first arrival of a pattern that reaches one place only. -/
theorem head?_advance_of_unique (noToken : p.hasToken = false) {a : Arrival}
    (reaches : ∀ next, p.Reaches text a.place next ↔ next = other) :
    (advance text p [a]).head? = some ⟨other, a.token⟩ := by
  have reached (next : Nat) : next ∈ places (advance text p [a]) ↔ next = other := by
    rw [mem_places_advance_iff]
    simp only [List.mem_singleton, exists_eq_left, reaches]
  obtain ⟨b, member, isOther⟩ := mem_places_iff.1 ((reached other).2 rfl)
  cases first : (advance text p [a]).head? with
  | none => rw [List.head?_eq_none_iff.1 first] at member; exact absurd member List.not_mem_nil
  | some c =>
      have found := List.mem_of_head? first
      have place : c.place = other := (reached c.place).1 (List.mem_map_of_mem found)
      have token : c.token = a.token := token_of_mem_advance text a.token noToken
        (fun d same => List.mem_singleton.1 same ▸ rfl) c found
      rw [← place, ← token]

theorem tokenAt_eq {a : Arrival} (noToken : p.hasToken = false)
    (first : (advance text p [⟨place, none⟩]).head? = some a) (proper : place < a.place) :
    p.tokenAt text place = some ⟨place, a.place⟩ := by
  have token : a.token = none := token_of_mem_advance text none noToken
    (fun d same => List.mem_singleton.1 same ▸ rfl) a (List.mem_of_head? first)
  have full : (⟨place, a.place⟩ : Span).isEmpty = false := (Span.isEmpty_eq_false_iff _).2 proper
  simp only [tokenAt, matchAt, first, Option.map_some, Match.span, token, Option.getD_none, full,
    Bool.false_eq_true, if_false]

/-- **A pattern that reaches one place only matches up to there.** -/
theorem tokenAt_of_unique (noToken : p.hasToken = false) (proper : place < other)
    (reaches : ∀ next, p.Reaches text place next ↔ next = other) :
    p.tokenAt text place = some ⟨place, other⟩ :=
  tokenAt_eq noToken (head?_advance_of_unique (a := ⟨place, none⟩) noToken reaches) proper

/-- Where a pattern without a token matches, the match begins and its end is reached. -/
theorem reaches_of_tokenAt {s : Span} (noToken : p.hasToken = false)
    (found : p.tokenAt text place = some s) : s.start = place ∧ p.Reaches text place s.stop := by
  simp only [tokenAt] at found
  split at found
  · cases found
  · next m at' =>
    split at found
    · cases found
    · cases found
      have reaches := reaches_of_matchAt at'
      have start := (matchAt_bounds at').1
      simp only [matchAt, Option.map_eq_some_iff] at at'
      obtain ⟨b, first, rfl⟩ := at'
      have token : b.token = none := token_of_mem_advance text none noToken
        (fun d same => List.mem_singleton.1 same ▸ rfl) b (List.mem_of_head? first)
      simp only [Match.span, token, Option.getD_none]
      exact ⟨trivial, reaches⟩

/-- A pattern that never matches nothing has a token wherever it reaches something. -/
theorem tokenAt_ne_none {next : Nat} (noToken : p.hasToken = false)
    (proper : ∀ next, p.Reaches text place next → place < next)
    (reaches : p.Reaches text place next) : p.tokenAt text place ≠ none := by
  obtain ⟨m, at'⟩ := Option.ne_none_iff_exists'.1 (matchAt_ne_none_iff.2 ⟨next, reaches⟩)
  obtain ⟨a, first, rfl⟩ := Option.map_eq_some_iff.1 at'
  rw [tokenAt_eq noToken first (proper a.place (reaches_of_matchAt at'))]
  exact Option.some_ne_none _

theorem tokenAt_eq_none (nothing : ∀ next, ¬ p.Reaches text place next) :
    p.tokenAt text place = none := by
  have none : p.matchAt text place = none :=
    Classical.not_not.1 fun some => (matchAt_ne_none_iff.1 some).elim nothing
  simp only [tokenAt, none]

/-! ## The first arrival of patterns put together -/

section First

variable {q r : Pattern} {a b c : Arrival}

/-- Of two alternatives the second one counts only if the first one leads nowhere. -/
theorem head?_advance_alt :
    (advance text (alt p q) [a]).head? =
      (advance text p [a]).head?.or (advance text q [a]).head? := by
  have step : advance text (alt p q) [a] =
      distinct (advance text p [a] ++ advance text q [a]) := rfl
  rw [step, head?_distinct, List.head?_append]

/-- From where a pattern reaches nothing there is no arrival. -/
theorem head?_advance_eq_none (nothing : ∀ next, ¬ p.Reaches text a.place next) :
    (advance text p [a]).head? = none := by
  rw [List.head?_eq_none_iff, ← List.map_eq_nil_iff (f := Arrival.place),
    List.eq_nil_iff_forall_not_mem]
  intro next member
  obtain ⟨b, only, reaches⟩ := (mem_places_advance_iff text p [a] next).1 member
  rw [List.mem_singleton.1 only] at reaches
  exact nothing next reaches

/-- An alternative goes on from the preferred arrival of what comes before it. -/
theorem head?_advance_cat_alt (first : (advance text p [a]).head? = some b)
    (next : (advance text (alt q r) [b]).head? = some c) :
    (advance text (cat p (alt q r)) [a]).head? = some c :=
  head?_gather_of_first first next

/-- **A run goes as far as it can** from the preferred arrival of what comes before it. -/
theorem head?_advance_cat_run {s : CharSet} {stop : Nat}
    (first : (advance text p [a]).head? = some b) (low : b.place ≤ stop)
    (inside : stop ≤ text.size) (all : ∀ i, b.place ≤ i → i < stop → s.StandsAt text i)
    (ends : ¬ s.StandsAt text stop) :
    (advance text (cat p (run true s)) [a]).head? = some ⟨stop, b.token⟩ := by
  apply head?_gather_of_first first
  have count : stop + 1 - b.place = stop - b.place + 1 := by omega
  rw [runFrom_eq inside ends low all]
  simp only [if_true, List.head?_reverse, count, List.range'_concat, List.map_append,
    List.map_cons, List.map_nil, List.getLast?_concat, Nat.one_mul]
  rw [Nat.add_sub_cancel' low]

end First

/-! ## Characters one after another -/

/-- Characters one after another lead from one arrival to one. -/
theorem advance_foldl_cat {cs : List Char} {sources : List Arrival} {a : Arrival}
    (single : advance text p sources = [a]) (stand : StandAt text cs a.place) :
    advance text ((cs.map char).foldl cat p) sources = [⟨a.place + cs.length, a.token⟩] := by
  induction cs generalizing p a with
  | nil => exact single
  | cons c rest ih =>
      obtain ⟨present, later⟩ := stand
      have next : advance text (cat p (char c)) sources = [⟨a.place + 1, a.token⟩] := by
        simp only [advance, single, char, List.filterMap_cons, List.filterMap_nil, present,
          CharSet.contains_single, decide_true, if_true]
      rw [List.map_cons, List.foldl_cons, ih next later, List.length_cons]
      simp only [List.cons.injEq, Arrival.mk.injEq, and_true]
      omega

theorem advance_literal {sign : String} {a : Arrival} (stand : StandAt text sign.toList a.place) :
    advance text (literal sign) [a] = [⟨a.place + sign.toList.length, a.token⟩] := by
  rw [literal]
  revert stand
  cases sign.toList with
  | nil => exact fun _ => rfl
  | cons c rest =>
      rintro ⟨present, later⟩
      have first : advance text (char c) [a] = [⟨a.place + 1, a.token⟩] := by
        simp only [advance, char, List.filterMap_cons, List.filterMap_nil, present,
          CharSet.contains_single, decide_true, if_true]
      rw [List.map_cons, seq, advance_foldl_cat first later, List.length_cons]
      simp only [List.cons.injEq, Arrival.mk.injEq, and_true]
      omega

/-- Characters one after another lead on from each arrival by itself. -/
theorem advance_foldl_cat_eq_flatMap (cs : List Char)
    (alone : ∀ sources, advance text p sources = sources.flatMap fun a => advance text p [a])
    (sources : List Arrival) :
    advance text ((cs.map char).foldl cat p) sources =
      sources.flatMap fun a => advance text ((cs.map char).foldl cat p) [a] := by
  induction cs generalizing p with
  | nil => exact alone sources
  | cons c rest ih =>
      refine ih fun sources => ?_
      rw [advance, alone, char, advance, List.filterMap_flatMap]
      rfl

theorem head?_advance_literal (sign : String) (sources : List Arrival) :
    (advance text (literal sign) sources).head? =
      sources.findSome? fun a => (advance text (literal sign) [a]).head? := by
  rw [← List.head?_flatMap, literal]
  cases sign.toList with
  | nil => simp only [List.map_nil, seq, advance, List.flatMap_singleton']
  | cons c rest =>
      rw [List.map_cons, seq, ← advance_foldl_cat_eq_flatMap rest]
      intro sources
      simp only [char, advance]
      rw [← List.filterMap_flatMap, List.flatMap_singleton']

/-! ## Searches -/

theorem tokenAt_of_size_le (past : text.size ≤ place) : p.tokenAt text place = none := by
  cases found : p.tokenAt text place with
  | none => rfl
  | some s =>
      have := tokenAt_bounds found
      omega

theorem find_succ (inside : place < text.size) (nothing : p.tokenAt text place = none) :
    p.find text place = p.find text (place + 1) := by
  have room : text.size - place = text.size - (place + 1) + 1 := by omega
  rw [find_eq_findFrom, room, findFrom, nothing, find_eq_findFrom]

theorem find_of_tokenAt {s : Span} (found : p.tokenAt text place = some s) :
    p.find text place = some s := by
  have := tokenAt_bounds found
  have room : text.size - place = text.size - (place + 1) + 1 := by omega
  rw [find_eq_findFrom, room, findFrom, found]

theorem find_eq_none_iff :
    p.find text place = none ↔ ∀ i, place ≤ i → p.tokenAt text i = none := by
  constructor
  · intro nothing
    suffices all : ∀ ahead, p.tokenAt text (place + ahead) = none ∧
        p.find text (place + ahead + 1) = none by
      intro i low
      obtain ⟨ahead, rfl⟩ := Nat.exists_eq_add_of_le low
      exact (all ahead).1
    have step (i : Nat) (nothing : p.find text i = none) :
        p.tokenAt text i = none ∧ p.find text (i + 1) = none := by
      have here : p.tokenAt text i = none := by
        cases found : p.tokenAt text i with
        | none => rfl
        | some s => rw [find_of_tokenAt found] at nothing; cases nothing
      refine ⟨here, ?_⟩
      by_cases inside : i < text.size
      · rw [← find_succ inside here, nothing]
      · rw [find_eq_findFrom]
        exact findFrom_eq_none fun j low => tokenAt_of_size_le (by omega)
    intro ahead
    induction ahead with
    | zero => exact step place nothing
    | succ ahead ih => exact step _ ih.2
  · intro nothing
    rw [find_eq_findFrom]
    exact findFrom_eq_none nothing

/-- **A search finds the match at the first place where there is one.** -/
theorem find_eq_some_iff {s : Span} :
    p.find text place = some s ↔
      ∃ first, place ≤ first ∧ p.tokenAt text first = some s ∧
        ∀ i, place ≤ i → i < first → p.tokenAt text i = none := by
  constructor
  · intro found
    generalize left : text.size - place = count
    induction count generalizing place with
    | zero =>
        have := find_bounds found
        omega
    | succ count ih =>
        cases here : p.tokenAt text place with
        | some t =>
            rw [find_of_tokenAt here] at found
            exact ⟨place, Nat.le_refl _, here.trans found, fun i low high => by omega⟩
        | none =>
            rw [find_succ (by omega) here] at found
            obtain ⟨first, low, at', before⟩ := ih found (by omega)
            refine ⟨first, by omega, at', fun i after => ?_⟩
            rcases Nat.eq_or_lt_of_le after with rfl | later
            · exact fun _ => here
            · exact before i later
  · rintro ⟨first, low, at', before⟩
    obtain ⟨ahead, rfl⟩ := Nat.exists_eq_add_of_le low
    have inside := tokenAt_bounds at'
    clear low
    induction ahead generalizing place with
    | zero => exact find_of_tokenAt at'
    | succ ahead ih =>
        rw [find_succ (by omega) (before place (Nat.le_refl _) (by omega))]
        have same : place + (ahead + 1) = place + 1 + ahead := by omega
        rw [same] at at' before inside
        exact ih at' (fun i after => before i (by omega)) inside

end Pattern

end Highlight
