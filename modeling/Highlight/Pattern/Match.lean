import Highlight.Pattern.Basic
import Highlight.Text.Span

/-!
# Matching patterns

A pattern that starts at a place of a text may end at several places. What
decides between them is preference: the first alternative before the second,
one more repetition before stopping, or the other way round where the
repetition takes as little as it can. Matching therefore computes the list of
all arrivals in order of preference, and a match is the first of them.

How a match goes on depends only on the place reached. Of several arrivals at
one place the preferred one stands for all, so lists of arrivals keep each
place once (`distinct`). That bounds their length by the length of the text,
whatever the pattern.

A repetition of an arbitrary pattern goes depth first through the rounds that
follow one another. At each place rounds begin once only, and the first round to
end there stands for all. The repetition may then stop there or go on, as it
prefers. So a round that matched nothing is no reason to go on, as rounds began
there before, but its end is a place to stop at, in its turn.

What a round leads to is known before the next one begins, and rounds have no
parts in common. Matchers that follow a graph of states enter each state once at
a place, and so share what rounds have in common. They reach the same places, in
the same order unless the repeated pattern can match nothing and has a part that
prefers to match nothing to something. The order of the places can then be
another one.
-/

namespace Highlight

set_option autoImplicit false

/-! ## Sets of places -/

/-- A set of places that are not before `base`, with a flag for each of them up
to the last one in the set. -/
structure PlaceSet where
  base : Nat
  flags : Array Bool

namespace PlaceSet

/-- The set without places. -/
def above (base : Nat) : PlaceSet := ⟨base, #[]⟩

/-- Whether a place is in the set. -/
def contains (s : PlaceSet) (place : Nat) : Bool :=
  decide (s.base ≤ place) && s.flags[place - s.base]?.getD false

/-- Some flags with the one at an index set. -/
def raise (flags : Array Bool) (index : Nat) : Array Bool :=
  if index < flags.size then flags.setIfInBounds index true
  else (flags ++ Array.replicate (index - flags.size) false).push true

/-- The set with one more place. -/
def insert (s : PlaceSet) (place : Nat) : PlaceSet :=
  if s.base ≤ place then ⟨s.base, raise s.flags (place - s.base)⟩ else s

theorem getElem?_raise (flags : Array Bool) (index other : Nat) :
    (raise flags index)[other]?.getD false =
      (flags[other]?.getD false || decide (index = other)) := by
  simp only [raise]
  split
  · next inside =>
    by_cases same : index = other
    · simp [same, same ▸ inside]
    · simp [same]
  · next outside =>
    rw [Array.getElem?_push]
    simp only [Array.size_append, Array.size_replicate]
    have size : flags.size + (index - flags.size) = index := by omega
    rw [size]
    by_cases same : index = other
    · simp [same]
    · have different : ¬ other = index := fun e => same e.symm
      simp only [different, if_false, same, decide_false, Bool.or_false]
      rw [Array.getElem?_append]
      split
      · rfl
      · next beyond =>
        have past : flags[other]? = none := Array.getElem?_eq_none (by omega)
        rw [past, Array.getElem?_replicate]
        split <;> rfl

theorem contains_above (base place : Nat) : (above base).contains place = false := by
  simp [above, contains]

theorem contains_insert (s : PlaceSet) (added place : Nat) :
    (s.insert added).contains place =
      (s.contains place || (decide (s.base ≤ added) && decide (added = place))) := by
  by_cases inside : s.base ≤ added
  · simp only [insert, inside, if_true, contains, getElem?_raise, decide_true, Bool.true_and]
    by_cases reach : s.base ≤ place
    · have same : (added - s.base = place - s.base) ↔ added = place := by omega
      simp only [reach, decide_true, Bool.true_and, same]
    · have other : added ≠ place := by omega
      simp only [reach, other, decide_false, Bool.false_and, Bool.or_false]
  · simp only [insert, inside, if_false, decide_false, Bool.false_and, Bool.or_false]

end PlaceSet

/-! ## Arrivals -/

/-- A place that a pattern reached, with the span of the token if it took
part. -/
structure Arrival where
  place : Nat
  token : Option Span
deriving DecidableEq

/-- The arrivals whose place is not in a set and not the place of an earlier
arrival. -/
def distinctFrom (seen : PlaceSet) : List Arrival → List Arrival
  | [] => []
  | a :: rest =>
      if seen.contains a.place then distinctFrom seen rest
      else a :: distinctFrom (seen.insert a.place) rest

/-- The least place of some arrivals, or `low` if that is less. -/
def leastPlace (low : Nat) : List Arrival → Nat
  | [] => low
  | a :: rest => leastPlace (min low a.place) rest

/-- Whether each arrival lies behind the one before it. -/
def ascends : List Arrival → Bool
  | a :: b :: rest => decide (a.place < b.place) && ascends (b :: rest)
  | _ => true

/-- Whether each arrival lies before the one before it. -/
def descends : List Arrival → Bool
  | a :: b :: rest => decide (b.place < a.place) && descends (b :: rest)
  | _ => true

/-- The first arrival at each place. -/
def distinct (arrivals : List Arrival) : List Arrival :=
  match arrivals with
  | [] => []
  | a :: rest =>
      if ascends (a :: rest) || descends (a :: rest) then a :: rest
      else distinctFrom (.above (leastPlace a.place rest)) (a :: rest)

/-- What can be reached from any of some arrivals by a step that reaches no
place twice, preferred arrivals first. -/
def gather (step : Arrival → List Arrival) : List Arrival → List Arrival
  | [a] => step a
  | sources => distinct (sources.flatMap step)

namespace Pattern

/-! ## Repetition -/

/-- The arrivals after each number of characters of a set, from `place` on,
farthest first, in front of those in `shorter`. -/
def sweep (text : Array Char) (s : CharSet) (token : Option Span) :
    Nat → Nat → List Arrival → List Arrival
  | 0, _, shorter => shorter
  | fuel + 1, place, shorter =>
      let reached := ⟨place, token⟩ :: shorter
      match text[place]? with
      | none => reached
      | some c => if s.contains c then sweep text s token fuel (place + 1) reached else reached

/-- The arrivals after any number of characters of a set. -/
def runFrom (text : Array Char) (greedy : Bool) (s : CharSet) (a : Arrival) : List Arrival :=
  let farthestFirst := sweep text s a.token (text.size + 1 - a.place) a.place []
  if greedy then farthestFirst else farthestFirst.reverse

/-- How far a repetition has been explored: where rounds have begun, where rounds have
ended, and where it may stop, with the arrivals there, the latest found first. -/
structure Explored where
  begun : PlaceSet
  ended : PlaceSet
  stops : PlaceSet
  found : List Arrival

namespace Explored

/-- Nothing explored of the places that are not before `base`. -/
def above (base : Nat) : Explored := ⟨.above base, .above base, .above base, []⟩

/-- Rounds begin at an arrival. -/
def begin (e : Explored) (a : Arrival) : Explored := { e with begun := e.begun.insert a.place }

/-- A round ends with an arrival. -/
def close (e : Explored) (a : Arrival) : Explored := { e with ended := e.ended.insert a.place }

/-- The repetition may stop with an arrival, unless it may stop there already. -/
def stop (e : Explored) (a : Arrival) : Explored :=
  if e.stops.contains a.place then e
  else { e with stops := e.stops.insert a.place, found := a :: e.found }

end Explored

/-- Goes on from an arrival and stops with it, in the order that is preferred. -/
def proceed (search : Arrival → Explored → Explored) (greedy : Bool) (e : Explored) (a : Arrival) :
    Explored :=
  if greedy then (search a e).stop a else search a (e.stop a)

/-- Proceeds from the end of a round, unless a round ended there before. -/
def visit (search : Arrival → Explored → Explored) (greedy : Bool) (e : Explored) (b : Arrival) :
    Explored :=
  if e.ended.contains b.place then e else proceed search greedy (e.close b) b

/-- Goes through the rounds from an arrival, unless rounds began there before. `fuel` bounds
how many rounds follow one another. -/
def explore (step : Arrival → List Arrival) (greedy : Bool) :
    Nat → Arrival → Explored → Explored
  | 0, _, e => e
  | fuel + 1, a, e =>
      if e.begun.contains a.place then e
      else (step a).foldl (visit (explore step greedy fuel) greedy) (e.begin a)

/-- Nothing explored yet of the places that some arrivals can lead to. -/
def unexplored : List Arrival → Explored
  | [] => .above 0
  | a :: rest => .above (leastPlace a.place rest)

/-- The arrivals after any number of repetitions of a step. -/
def starFrom (size : Nat) (step : Arrival → List Arrival) (greedy : Bool)
    (sources : List Arrival) : List Arrival :=
  let search := explore step greedy (size + 1)
  (sources.foldl (proceed search greedy) (unexplored sources)).found.reverse

/-- The arrivals after at least one repetition of a step. -/
def plusFrom (size : Nat) (step : Arrival → List Arrival) (greedy : Bool)
    (sources : List Arrival) : List Arrival :=
  let search := explore step greedy (size + 1)
  (sources.foldl (fun e a => search a e) (unexplored sources)).found.reverse

/-! ## Matching -/

/-- All arrivals of a pattern that starts at the places of some arrivals,
preferred ones first and each place once. -/
def advance (text : Array Char) : Pattern → List Arrival → List Arrival
  | empty, sources => sources
  | one s, sources => sources.filterMap fun a =>
      match text[a.place]? with
      | none => none
      | some c => if s.contains c then some ⟨a.place + 1, a.token⟩ else none
  | assert condition, sources => sources.filter fun a => condition.holds text a.place
  | cat p q, sources => advance text q (advance text p sources)
  | alt p q, sources =>
      gather (fun a => distinct (advance text p [a] ++ advance text q [a])) sources
  | run greedy s, sources => gather (runFrom text greedy s) sources
  | star greedy p, sources =>
      starFrom text.size (fun a => advance text p [a]) greedy sources
  | plus greedy p, sources =>
      plusFrom text.size (fun a => advance text p [a]) greedy sources
  | token p, sources =>
      gather (fun a => (advance text p [a]).map fun b => ⟨b.place, some ⟨a.place, b.place⟩⟩)
        sources

/-- What a match covers: the whole of it and, if it took part, the token. -/
structure Match where
  whole : Span
  token : Option Span
deriving DecidableEq

/-- The span that a match stands for: its token, or else all of it. -/
def Match.span (m : Match) : Span := m.token.getD m.whole

/-- The preferred match that starts at a place. -/
def matchAt (p : Pattern) (text : Array Char) (place : Nat) : Option Match :=
  (advance text p [⟨place, none⟩]).head?.map fun a => ⟨⟨place, a.place⟩, a.token⟩

/-- The span that the match at a place stands for, unless that span is empty. -/
def tokenAt (p : Pattern) (text : Array Char) (place : Nat) : Option Span :=
  match p.matchAt text place with
  | none => none
  | some m => if m.span.isEmpty then none else some m.span

/-- The first span that a match from `place` on stands for, matches that stand
for nothing being passed over. `fuel` counts the places left. -/
def findFrom (p : Pattern) (text : Array Char) : Nat → Nat → Option Span
  | 0, _ => none
  | fuel + 1, place =>
      match p.tokenAt text place with
      | some found => some found
      | none => findFrom p text fuel (place + 1)

/-- Sets of which every match holds a character. -/
def needs : Pattern → List CharSet
  | empty => []
  | one s => [s]
  | assert _ => []
  | cat p q => p.needs ++ q.needs
  | alt _ _ => []
  | run _ _ => []
  | star _ _ => []
  | plus _ p => p.needs
  | token p => p.needs

/-- The place behind the last character of a set among the first ones of a
text. -/
def lastOf (text : Array Char) (s : CharSet) : Nat → Nat
  | 0 => 0
  | count + 1 => if text[count]?.any s.contains then count + 1 else lastOf text s count

/-- A place from which on no match begins, since none has all the characters it
needs ahead of it. -/
def horizon (p : Pattern) (text : Array Char) : Nat :=
  p.needs.foldl (fun limit s => min limit (lastOf text s text.size)) text.size

/-- The token of the leftmost match from a place on that has a token with text
in it. -/
def find (p : Pattern) (text : Array Char) (place : Nat) : Option Span :=
  p.findFrom text (p.horizon text - place) place

end Pattern

end Highlight
