import Highlight.Proofs.Grammar.PlainText
import Highlight.Proofs.Pattern.Spelling

/-!
# Spans as texts of their own

A rule that is not greedy takes each piece of plain text as a text of its own. What it finds in a
span is cut out, and what stands behind that is a text of its own again (`Piece.carve_of_find`).
Where it finds nothing the span stays plain (`Piece.carve_of_find_none`).

So a place that stays plain was looked at in some part of its span that reaches to the end of the
span, and nothing was found there (`Piece.exists_part_of_plainAt_carve`). In particular a rule for
characters of a set, as many as there are, leaves none of them plain
(`Piece.not_standsAt_of_plainAt_carve`).

A span that a rule has found, greedy or not, holds a text that the pattern of the rule spells
(`Rule.Finds.spells`).
-/

namespace Highlight

set_option autoImplicit false

theorem Span.size_slice {text : Array Char} {start stop : Nat} (inside : stop ≤ text.size) :
    ((⟨start, stop⟩ : Span).slice text).size = stop - start := by
  rw [Span.slice, Array.size_extract, Nat.min_eq_left inside]

theorem Span.getElem?_slice {text : Array Char} {start stop i : Nat} (high : start + i < stop) :
    ((⟨start, stop⟩ : Span).slice text)[i]? = text[start + i]? := by
  rw [Span.slice, Array.getElem?_extract]
  split
  · rfl
  · rw [Array.getElem?_eq_none (by simp only at *; omega)]

/-- What is cut out of a part of a text is cut out of the text. -/
theorem Span.slice_shift {text : Array Char} {region found : Span}
    (proper : found.start < found.stop) (inside : found.stop ≤ (region.slice text).size) :
    (found.shift region.start).slice text = found.slice (region.slice text) := by
  simp only [Span.slice, Array.size_extract] at inside
  simp only [Span.slice, Span.shift, Array.extract_extract]
  congr 1
  omega

/-- A character stands in a part of a text as it does in the text. -/
theorem CharSet.StandsAt.slice {s : CharSet} {text : Array Char} {place : Nat} {span : Span}
    (stands : s.StandsAt text place) (low : span.start ≤ place) (high : place < span.stop) :
    s.StandsAt (span.slice text) (place - span.start) := by
  have inside := stands.lt_size
  rw [StandsAt, Span.slice, Array.getElem?_extract, if_pos (by omega), Nat.add_sub_cancel' low]
  exact stands

namespace Piece

variable {pattern : Pattern} {make : Array Char → Token} {text : Array Char} {pieces : List Piece}
  {span found : Span} {t : Token} {place : Nat}

theorem carve_append (first second : List Piece) :
    carve pattern make text (first ++ second) =
      carve pattern make text first ++ carve pattern make text second :=
  List.flatMap_append

/-- Tokens are carved no further. -/
theorem carve_token_cons :
    carve pattern make text (token span t :: pieces) =
      token span t :: carve pattern make text pieces := rfl

theorem carve_plainUnlessEmpty (span : Span) :
    carve pattern make text (plainUnlessEmpty span) =
      if span.start < span.stop then carveSpan pattern make text span else [] := by
  rw [carve, plainUnlessEmpty]
  split
  · rw [List.flatMap_cons, List.flatMap_nil, List.append_nil]
  · rw [List.flatMap_nil]

/-- **Where nothing is found in a span, it stays plain.** -/
theorem carve_of_find_none (nothing : pattern.find (span.slice text) 0 = none) :
    carve pattern make text (plainUnlessEmpty span) = plainUnlessEmpty span := by
  apply carve_eq_self
  intro other isPlain
  rw [plainUnlessEmpty] at isPlain
  split at isPlain
  · cases List.mem_singleton.1 isPlain
    exact nothing
  · exact absurd isPlain List.not_mem_nil

/-- **What is found in a span is cut out of it**, and what stands behind it is carved again. -/
theorem carve_of_find (isFound : pattern.find (span.slice text) 0 = some found) :
    carve pattern make text (plainUnlessEmpty span) =
      plainUnlessEmpty ⟨span.start, span.start + found.start⟩ ++
        token (found.shift span.start) (make ((found.shift span.start).slice text)) ::
          carve pattern make text (plainUnlessEmpty ⟨span.start + found.stop, span.stop⟩) := by
  have bounds := Pattern.find_bounds isFound
  have proper : span.start < span.stop := by
    rw [Span.slice, Array.size_extract] at bounds
    omega
  rw [carve_plainUnlessEmpty, if_pos proper, carve_plainUnlessEmpty, carveSpan]
  split
  · next nothing =>
    rw [isFound] at nothing
    cases nothing
  · next other isOther =>
    rw [isFound] at isOther
    cases isOther
    rfl

/-- **What is found where the text begins comes first**, and what stands behind it is carved
again. -/
theorem carve_start_of_tokenAt {stop : Nat} (here : pattern.tokenAt text 0 = some ⟨0, stop⟩) :
    carve pattern make text (Piece.start text) =
      token ⟨0, stop⟩ (make ((⟨0, stop⟩ : Span).slice text)) ::
        carve pattern make text (plainUnlessEmpty ⟨stop, text.size⟩) := by
  have whole : (⟨0, text.size⟩ : Span).slice text = text := Array.extract_size
  have isFound : pattern.find ((⟨0, text.size⟩ : Span).slice text) 0 = some ⟨0, stop⟩ := by
    rw [whole]
    exact Pattern.find_of_tokenAt here
  have empty : plainUnlessEmpty ⟨0, 0⟩ = [] := rfl
  rw [Piece.start, carve_of_find isFound]
  simp only [Span.shift, Nat.zero_add, empty, List.nil_append]

/-! ## Places that stay plain -/

section Plain

variable (noToken : pattern.hasToken = false)
include noToken

theorem exists_part_of_plainAt_carveSpan
    (isPlain : PlainAt (carveSpan pattern make text span) place) :
    ∃ start, span.start ≤ start ∧ start ≤ place ∧ place < span.stop ∧
      pattern.tokenAt ((⟨start, span.stop⟩ : Span).slice text) (place - start) = none := by
  fun_induction carveSpan pattern make text span with
  | case1 span nothing =>
      obtain ⟨low, high⟩ | none := plainAt_plain_cons.1 isPlain
      · exact ⟨span.start, Nat.le_refl _, low, high,
          Pattern.find_eq_none_iff.1 nothing _ (Nat.zero_le _)⟩
      · exact absurd none not_plainAt_nil
  | case2 span found isFound matched ih =>
      have bounds := Pattern.find_bounds isFound
      rw [Span.slice, Array.size_extract] at bounds
      rcases plainAt_append.1 isPlain with before | behind
      · obtain ⟨low, high⟩ := plainAt_plainUnlessEmpty.1 before
        simp only [matched, Span.shift] at low high
        obtain ⟨first, _, at', earlier⟩ := Pattern.find_eq_some_iff.1 isFound
        obtain ⟨begins, _⟩ := Pattern.reaches_of_tokenAt noToken at'
        refine ⟨span.start, Nat.le_refl _, low, by omega, earlier _ (Nat.zero_le _) ?_⟩
        omega
      · rw [plainAt_token_cons] at behind
        split at behind
        · next more =>
          obtain ⟨start, low, within, high, nothing⟩ := ih more behind
          refine ⟨start, ?_, within, high, nothing⟩
          simp only [matched, Span.shift] at low
          omega
        · exact absurd behind not_plainAt_nil

/-- **A place that stays plain lies in a part of a span that was searched**, and nothing was found
at the place. -/
theorem exists_part_of_plainAt_carve (isPlain : PlainAt (carve pattern make text pieces) place) :
    ∃ span start, plain span ∈ pieces ∧ span.start ≤ start ∧ start ≤ place ∧ place < span.stop ∧
      pattern.tokenAt ((⟨start, span.stop⟩ : Span).slice text) (place - start) = none := by
  obtain ⟨piece, member, bounds⟩ := isPlain
  obtain ⟨_, isToken⟩ | ⟨span, isPlain, part⟩ := mem_carve_iff.1 member
  · cases isToken
  · obtain ⟨start, found⟩ := exists_part_of_plainAt_carveSpan noToken ⟨piece, part, bounds⟩
    exact ⟨span, start, isPlain, found⟩

/-- Carving makes nothing plain. -/
theorem plainAt_of_plainAt_carve (isPlain : PlainAt (carve pattern make text pieces) place) :
    PlainAt pieces place := by
  obtain ⟨span, start, member, low, within, high, _⟩ := exists_part_of_plainAt_carve noToken isPlain
  exact ⟨span, member, Nat.le_trans low within, high⟩

end Plain

/-- **Where characters of a set are carved in a row, none of them stays plain.** -/
theorem not_standsAt_of_plainAt_carve {s : CharSet}
    (isPlain : PlainAt (carve (Pattern.many1 (.one s)) make text pieces) place) :
    ¬ s.StandsAt text place := by
  intro stands
  have noToken : (Pattern.many1 (.one s)).hasToken = false := rfl
  obtain ⟨span, start, _, _, low, high, nothing⟩ := exists_part_of_plainAt_carve noToken isPlain
  have here : s.StandsAt ((⟨start, span.stop⟩ : Span).slice text) (place - start) :=
    stands.slice low high
  have reaches : (Pattern.many1 (.one s)).Reaches ((⟨start, span.stop⟩ : Span).slice text)
      (place - start) (place - start + 1) := by
    refine Pattern.reaches_many1_iff.2 ⟨Nat.lt_succ_self _, here.lt_size, fun i low high => ?_⟩
    exact Nat.le_antisymm (Nat.le_of_lt_succ high) low ▸ here
  exact Pattern.tokenAt_ne_none noToken (fun _ leads => (Pattern.reaches_many1_iff.1 leads).1)
    reaches nothing

end Piece

/-- A rule that is not greedy carves the pieces one by one. -/
theorem Rule.applyAll_cons_alone {rule : Rule} (alone : rule.greedy = false) (rest : List Rule)
    (text : Array Char) (pieces : List Piece) :
    applyAll (rule :: rest) text pieces =
      applyAll rest text (Piece.carve rule.pattern rule.token text pieces) := by
  rw [applyAll, alone, if_neg Bool.false_ne_true]

/-- What a rule that is not greedy finds in a part of a text. -/
theorem Rule.Finds.of_find_slice {rule : Rule} {text : Array Char} {region found : Span}
    (alone : rule.greedy = false) (inside : region.stop ≤ text.size)
    (isFound : rule.pattern.find (region.slice text) 0 = some found) :
    rule.Finds text (found.shift region.start) := by
  rw [Rule.Finds, alone, if_neg Bool.false_ne_true]
  exact ⟨region, found, inside, isFound, rfl⟩

/-- **A rule finds a text that its pattern spells**, whether it is greedy or not. -/
theorem Rule.Finds.spells {rule : Rule} {text : Array Char} {span : Span}
    (finds : rule.Finds text span) (noToken : rule.pattern.hasToken = false) :
    rule.pattern.Spells (span.slice text).toList := by
  rw [Rule.Finds] at finds
  split at finds
  · obtain ⟨place, isFound⟩ := finds
    exact Pattern.spells_of_find noToken isFound
  · obtain ⟨region, found, _, isFound, rfl⟩ := finds
    have bounds := Pattern.find_bounds isFound
    rw [Span.slice_shift bounds.2.1 bounds.2.2]
    exact Pattern.spells_of_find noToken isFound

end Highlight
