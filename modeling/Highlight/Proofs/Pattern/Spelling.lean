import Highlight.Proofs.Pattern.Preference

/-!
# What a pattern spells

A pattern that asks for nothing but characters can be read as a description of texts
(`Pattern.Spells`). What it leads over in a text is a text that it spells
(`Pattern.Reaches.exists_spelled`), and where such a text stands it leads over it
(`Pattern.Spells.reaches`). A condition on a place spells nothing, and a pattern with conditions may
refuse what it spells.

So it does not matter to such a pattern in which text it stands: what it has found in a longer text,
cut out of it, is a text that it leads over from the beginning to the end
(`Pattern.Spells.reaches_whole`).
-/

namespace Highlight

set_option autoImplicit false

variable {text : Array Char} {place other : Nat} {cs : List Char} {c : Char}

/-! ## Stretches of a text -/

/-- The characters of a span are those that stand in it. -/
theorem Span.mem_slice_iff {span : Span} :
    c ∈ (span.slice text).toList ↔
      ∃ i, span.start ≤ i ∧ i < span.stop ∧ text[i]? = some c := by
  rw [Span.slice, ← Array.mem_def, Array.mem_iff_getElem?]
  simp only [Array.getElem?_extract]
  constructor
  · rintro ⟨i, present⟩
    split at present
    · next inside => exact ⟨span.start + i, Nat.le_add_right _ _, by omega, present⟩
    · cases present
  · rintro ⟨i, low, high, present⟩
    have inside : i < text.size := (Array.getElem?_eq_some_iff.1 present).1
    refine ⟨i - span.start, ?_⟩
    rw [if_pos (by omega), Nat.add_sub_cancel' low, present]

theorem standAt_of_getElem? (same : ∀ i < cs.length, text[place + i]? = cs[i]?) :
    StandAt text cs place := by
  induction cs generalizing place with
  | nil => trivial
  | cons c rest ih =>
      refine ⟨same 0 (Nat.succ_pos _), ih fun i inside => ?_⟩
      have next := same (i + 1) (Nat.succ_lt_succ inside)
      rwa [Nat.add_comm i, ← Nat.add_assoc, Nat.add_comm 1 i, List.getElem?_cons_succ] at next

/-- What is cut out of a text stands where it is cut out. -/
theorem standAt_slice (text : Array Char) (span : Span) :
    StandAt text (span.slice text).toList span.start := by
  apply standAt_of_getElem?
  intro i inside
  rw [Array.length_toList, Span.slice, Array.size_extract] at inside
  rw [Array.getElem?_toList, Span.slice, Array.getElem?_extract, if_pos inside]

theorem StandAt.stop_le (stand : StandAt text cs place) (inside : place ≤ text.size) :
    place + cs.length ≤ text.size := by
  cases cs with
  | nil => exact inside
  | cons c rest => exact stand.le_size (Nat.succ_pos _)

/-- What stands at a place is what is cut out there. -/
theorem StandAt.toList_slice (stand : StandAt text cs place) (inside : place ≤ text.size) :
    ((⟨place, place + cs.length⟩ : Span).slice text).toList = cs := by
  have within := stand.stop_le inside
  have all := standAt_slice text ⟨place, place + cs.length⟩
  have length : ((⟨place, place + cs.length⟩ : Span).slice text).toList.length = cs.length := by
    rw [Array.length_toList, Span.slice, Array.size_extract]
    simp only
    omega
  apply List.ext_getElem?
  intro i
  by_cases inside : i < cs.length
  · rw [← all.getElem? (by omega), ← stand.getElem? inside]
  · rw [List.getElem?_eq_none (Nat.not_lt.1 inside), List.getElem?_eq_none (by omega)]

namespace Pattern

/-! ## Spelling -/

/-- The texts that a pattern describes. -/
def Spells : Pattern → List Char → Prop
  | empty, cs => cs = []
  | one s, cs => ∃ c, cs = [c] ∧ s.contains c = true
  | assert _, cs => cs = []
  | cat p q, cs => ∃ first second, cs = first ++ second ∧ Spells p first ∧ Spells q second
  | alt p q, cs => Spells p cs ∨ Spells q cs
  | run _ s, cs => ∀ c ∈ cs, s.contains c = true
  | star _ p, cs => ∃ parts : List (List Char), cs = parts.flatten ∧ ∀ part ∈ parts, Spells p part
  | plus _ p, cs => ∃ parts : List (List Char), parts ≠ [] ∧ cs = parts.flatten ∧
      ∀ part ∈ parts, Spells p part
  | token p, cs => Spells p cs

theorem spells_char_iff : (char c).Spells cs ↔ cs = [c] := by
  rw [char, Spells]
  simp only [CharSet.contains_single, decide_eq_true_eq, exists_eq_right]

/-- What rounds lead over is made up of what each of them spells. -/
theorem exists_spelled_of_rounds {p : Pattern} {R : Nat → Nat → Prop}
    (each : ∀ {place other : Nat}, R place other →
      ∃ cs, p.Spells cs ∧ StandAt text cs place ∧ other = place + cs.length)
    (rounds : Relation.ReflTransGen R place other) :
    ∃ parts : List (List Char), (∀ part ∈ parts, p.Spells part) ∧
      StandAt text parts.flatten place ∧ other = place + parts.flatten.length := by
  induction rounds with
  | refl => exact ⟨[], List.forall_mem_nil _, trivial, rfl⟩
  | tail _ leads ih =>
      obtain ⟨parts, all, stand, rfl⟩ := ih
      obtain ⟨part, spelled, stand', rfl⟩ := each leads
      refine ⟨parts ++ [part],
        List.forall_mem_append.2 ⟨all, List.forall_mem_singleton.2 spelled⟩, ?_, ?_⟩
      · rw [List.flatten_concat]
        exact standAt_append_iff.2 ⟨stand, stand'⟩
      · rw [List.flatten_concat, List.length_append, Nat.add_assoc]

/-- Where the parts of a text stand, rounds that each lead over one of them lead over it. -/
theorem rounds_of_spelled {p : Pattern} {R : Nat → Nat → Prop}
    (each : ∀ {place : Nat} {cs : List Char}, p.Spells cs → StandAt text cs place →
      place ≤ text.size → R place (place + cs.length))
    {parts : List (List Char)} (all : ∀ part ∈ parts, p.Spells part)
    (stand : StandAt text parts.flatten place) (inside : place ≤ text.size) :
    Relation.ReflTransGen R place (place + parts.flatten.length) := by
  induction parts generalizing place with
  | nil => exact .refl
  | cons part rest ih =>
      rw [List.flatten_cons] at stand ⊢
      obtain ⟨stand, stand'⟩ := standAt_append_iff.1 stand
      obtain ⟨spelled, others⟩ := List.forall_mem_cons.1 all
      rw [List.length_append, ← Nat.add_assoc]
      exact .head (each spelled stand inside) (ih others stand' (stand.stop_le inside))

/-- **What a pattern leads over is a text that it spells.** -/
theorem Reaches.exists_spelled {p : Pattern} (reaches : p.Reaches text place other) :
    ∃ cs, p.Spells cs ∧ StandAt text cs place ∧ other = place + cs.length := by
  induction p generalizing place other with
  | empty => exact ⟨[], rfl, trivial, reaches⟩
  | one s =>
      obtain ⟨rfl, stands⟩ := reaches
      obtain ⟨c, present, member⟩ := CharSet.standsAt_iff_exists.1 stands
      exact ⟨[c], ⟨c, rfl, member⟩, ⟨present, trivial⟩, rfl⟩
  | assert condition => exact ⟨[], rfl, trivial, reaches.1⟩
  | cat p q ihp ihq =>
      obtain ⟨between, first, second⟩ := reaches
      obtain ⟨front, spelled, stand, rfl⟩ := ihp first
      obtain ⟨back, spelled', stand', rfl⟩ := ihq second
      refine ⟨front ++ back, ⟨front, back, rfl, spelled, spelled'⟩,
        standAt_append_iff.2 ⟨stand, stand'⟩, ?_⟩
      rw [List.length_append, Nat.add_assoc]
  | alt p q ihp ihq =>
      rcases reaches with first | second
      · obtain ⟨cs, spelled, stand, ends⟩ := ihp first
        exact ⟨cs, Or.inl spelled, stand, ends⟩
      · obtain ⟨cs, spelled, stand, ends⟩ := ihq second
        exact ⟨cs, Or.inr spelled, stand, ends⟩
  | run greedy s =>
      obtain ⟨low, inside, all⟩ := reaches
      refine ⟨((⟨place, other⟩ : Span).slice text).toList, fun c member => ?_,
        standAt_slice text ⟨place, other⟩, ?_⟩
      · obtain ⟨i, after, before, present⟩ := Span.mem_slice_iff.1 member
        exact (CharSet.standsAt_iff present).1 (all i after before)
      · rw [Array.length_toList, Span.slice, Array.size_extract]
        simp only
        omega
  | star greedy p ih =>
      obtain ⟨parts, all, stand, ends⟩ := exists_spelled_of_rounds (fun leads => ih leads) reaches
      exact ⟨parts.flatten, ⟨parts, rfl, all⟩, stand, ends⟩
  | plus greedy p ih =>
      obtain ⟨_, leads, rounds⟩ := Relation.TransGen.head'_iff.1 reaches
      obtain ⟨part, spelled, stand, rfl⟩ := ih leads
      obtain ⟨parts, all, stand', rfl⟩ := exists_spelled_of_rounds (fun leads => ih leads) rounds
      refine ⟨part ++ parts.flatten,
        ⟨part :: parts, List.cons_ne_nil _ _, List.flatten_cons.symm, ?_⟩,
        standAt_append_iff.2 ⟨stand, stand'⟩, ?_⟩
      · exact List.forall_mem_cons.2 ⟨spelled, all⟩
      · rw [List.length_append, Nat.add_assoc]
  | token p ih => exact ih reaches

/-- **Where a text stands that a pattern spells, the pattern leads over it**, if it asks for no
condition on a place. -/
theorem Spells.reaches {p : Pattern} (noAssertion : p.hasAssertion = false) (spelled : p.Spells cs)
    (stand : StandAt text cs place) (inside : place ≤ text.size) :
    p.Reaches text place (place + cs.length) := by
  induction p generalizing place cs with
  | empty =>
      obtain rfl : cs = [] := spelled
      exact rfl
  | one s =>
      obtain ⟨c, rfl, member⟩ := spelled
      exact ⟨rfl, (CharSet.standsAt_iff stand.1).2 member⟩
  | assert condition => cases noAssertion
  | cat p q ihp ihq =>
      rw [hasAssertion, Bool.or_eq_false_iff] at noAssertion
      obtain ⟨first, second, rfl, front, back⟩ := spelled
      obtain ⟨stand, stand'⟩ := standAt_append_iff.1 stand
      rw [List.length_append, ← Nat.add_assoc]
      exact ⟨_, ihp noAssertion.1 front stand inside,
        ihq noAssertion.2 back stand' (stand.stop_le inside)⟩
  | alt p q ihp ihq =>
      rw [hasAssertion, Bool.or_eq_false_iff] at noAssertion
      rcases spelled with front | back
      · exact Or.inl (ihp noAssertion.1 front stand inside)
      · exact Or.inr (ihq noAssertion.2 back stand inside)
  | run greedy s =>
      refine ⟨Nat.le_add_right _ _, stand.stop_le inside, fun i low high => ?_⟩
      have before : i - place < cs.length := by omega
      have present := stand.getElem? before
      rw [Nat.add_sub_cancel' low, List.getElem?_eq_getElem before] at present
      exact (CharSet.standsAt_iff present).2 (spelled _ (List.getElem_mem before))
  | star greedy p ih =>
      obtain ⟨parts, rfl, all⟩ := spelled
      exact rounds_of_spelled (ih noAssertion) all stand inside
  | plus greedy p ih =>
      obtain ⟨parts, some, rfl, all⟩ := spelled
      obtain ⟨part, rest, rfl⟩ := List.exists_cons_of_ne_nil some
      rw [List.flatten_cons] at stand ⊢
      obtain ⟨stand, stand'⟩ := standAt_append_iff.1 stand
      obtain ⟨spelled, others⟩ := List.forall_mem_cons.1 all
      rw [List.length_append, ← Nat.add_assoc]
      exact Relation.TransGen.head' (ih noAssertion spelled stand inside)
        (rounds_of_spelled (ih noAssertion) others stand' (stand.stop_le inside))
  | token p ih => exact ih noAssertion spelled stand inside

/-- A pattern leads over a text that it spells from the beginning to the end. -/
theorem Spells.reaches_whole {p : Pattern} (noAssertion : p.hasAssertion = false)
    (spelled : p.Spells text.toList) : p.Reaches text 0 text.size := by
  have stand := standAt_toArray [] text.toList
  have leads := spelled.reaches noAssertion stand (Nat.zero_le _)
  rwa [List.nil_append, List.length_nil, Nat.zero_add, Array.length_toList] at leads

/-- What a pattern without a token finds is a text that it spells. -/
theorem spells_of_find {p : Pattern} {span : Span} (noToken : p.hasToken = false)
    (found : p.find text place = some span) : p.Spells (span.slice text).toList := by
  obtain ⟨first, _, at', _⟩ := find_eq_some_iff.1 found
  obtain ⟨rfl, reaches⟩ := reaches_of_tokenAt noToken at'
  have bounds := tokenAt_bounds at'
  obtain ⟨cs, spelled, stand, ends⟩ := reaches.exists_spelled
  have slice := stand.toList_slice (Nat.le_trans (Nat.le_of_lt bounds.2.1) bounds.2.2)
  rw [← ends] at slice
  rwa [slice]

end Pattern

end Highlight
