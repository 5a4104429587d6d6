import Highlight.Proofs.Grammar.PlaceByPlace
import Highlight.Proofs.Language.CommentScan
import Highlight.Proofs.Language.LongStrings
import Mathlib.Data.Nat.Find

/-!
# Strings in three quotes that begin in a string

A string in three single quotes may begin in a string in double quotes and run on over the comment
behind it (`Language.StringThenComment`). If no sign of a comment is in the string, three quotes
in a row open and close such strings in turn there, and the comment is lost exactly if one of them
is still open where the string ends and is closed further on
(`Language.StringThenComment.endsInTripleQuotes_iff`).
-/

namespace Highlight

set_option autoImplicit false

namespace Language

open Pattern Piece

/-- Whether a row of characters ends in a string in three single quotes, given whether it begins in
one. -/
def endsInTripleQuotes : Bool → List Char → Bool
  | inside, [] => inside
  | inside, '\'' :: '\'' :: '\'' :: rest => endsInTripleQuotes (!inside) rest
  | inside, _ :: rest => endsInTripleQuotes inside rest

/-- Where the reading ends otherwise than it begins, there are three quotes. -/
theorem isInfix_of_endsInTripleQuotes {inside : Bool} {cs : List Char}
    (changes : endsInTripleQuotes inside cs ≠ inside) : "'''".toList <:+: cs := by
  fun_induction endsInTripleQuotes inside cs with
  | case1 inside => exact absurd rfl changes
  | case2 inside rest ih => exact (List.prefix_append "'''".toList rest).isInfix
  | case3 inside c rest noQuotes ih => exact (ih changes).trans (List.suffix_cons c rest).isInfix

/-- Reading for strings in three quotes has come to a place: outside of any, or inside one that has
been opened before and not been closed since. -/
def QuotesReadTo (text : Array Char) : Bool → Nat → Nat → Prop
  | false, place, from' => from' = place
  | true, place, from' => from' + 3 ≤ place ∧ StandAt text "'''".toList from' ∧
      ∀ i, from' + 3 ≤ i → i < place → ¬ StandAt text "'''".toList i

/-- Three quotes do not stand where another character does. -/
theorem not_standAt_quotes {text : Array Char} {i : Nat} {c : Char} (present : text[i]? = some c)
    (other : c ≠ '\'') : ¬ StandAt text "'''".toList i := fun stand =>
  other (Option.some.inj (present.symm.trans stand.1))

/-- Where quotes stand behind a place, some of them stand first. -/
theorem exists_first {P : Nat → Prop} {low place : Nat} (later : low ≤ place) (holds : P place) :
    ∃ first, low ≤ first ∧ P first ∧ ∀ i, low ≤ i → i < first → ¬ P i := by
  classical
  have some : ∃ i, low ≤ i ∧ P i := ⟨place, later, holds⟩
  exact ⟨Nat.find some, (Nat.find_spec some).1, (Nat.find_spec some).2, fun i after before isP =>
    Nat.find_min some before ⟨after, isP⟩⟩

namespace StringThenComment

variable {text : Array Char} {close i : Nat} (shape : StringThenComment text "#".toList close)
  {line make : Array Char → Token}

include shape

theorem sign_lt_size : close + 2 < text.size := shape.sign.le_size (by decide)

/-- Three quotes in front of the comment are all in the string. -/
theorem lt_of_tripleQuote (stand : StandAt text "'''".toList i) (before : i < close + 2) :
    i + 3 ≤ close := by
  obtain ⟨first, second, third, _⟩ := stand
  have := shape.within (by decide) (by decide) first before
  have := shape.within (by decide) (by decide) second (by omega)
  have := shape.within (by decide) (by decide) third (by omega)
  omega

/-- Three quotes that stand in front of a part of the string are the first of it. -/
theorem eq_cons_of_tripleQuote {c : Char} {rest : List Char} (stand : StandAt text (c :: rest) i)
    (ends : i + 1 + rest.length = close) (quotes : StandAt text "'''".toList i) :
    c = '\'' ∧ ∃ others, rest = '\'' :: '\'' :: others := by
  have within := shape.lt_of_tripleQuote quotes (by omega)
  obtain ⟨present, later⟩ := stand
  obtain ⟨first, second, third, _⟩ : StandAt text ['\'', '\'', '\''] i := quotes
  refine ⟨Option.some.inj (present.symm.trans first), ?_⟩
  match rest with
  | [] => simp only [List.length_nil] at ends; omega
  | [d] => simp only [List.length_singleton] at ends; omega
  | d :: e :: others =>
      refine ⟨others, ?_⟩
      rw [Option.some.inj (later.1.symm.trans second),
        Option.some.inj (later.2.1.symm.trans third)]

/-- Three double quotes in a row do not stand in front of the comment. -/
theorem not_standAt_tripleQuote (before : i < close + 2) :
    ¬ StandAt text "\"\"\"".toList i := by
  rintro ⟨first, second, third, _⟩
  have outside {j : Nat} (quote : text[j]? = some '"') (low : 0 < j) : ¬ j < close := by
    intro high
    obtain ⟨x, present, allowed⟩ := shape.body j low high
    rw [Option.some.inj (present.symm.trans quote)] at allowed
    exact allowed (by decide)
  have noSpace {j : Nat} (quote : text[j]? = some '"') : j ≠ close + 1 := by
    rintro rfl
    exact absurd (Option.some.inj (quote.symm.trans shape.space)) (by decide)
  have := outside second (Nat.succ_pos i)
  have := noSpace first
  have := noSpace second
  have := noSpace third
  rcases Nat.eq_zero_or_pos i with rfl | low
  · exact shape.beginsWithString.not_standAt_tripleQuote ⟨first, second, third, trivial⟩
  · have := outside first low
    omega

/-- Letters in front of quotes do not go beyond the space. -/
theorem lt_of_prefixes {start : Nat} (letters : Python.prefixes.Reaches text i start)
    (before : i < close + 2) : start < close + 2 :=
  Nat.lt_succ_of_le (letters.le_of_avoids (c := ' ') rfl shape.space (Nat.le_of_lt_succ before))

/-- A string in three quotes that begins in front of the comment has single quotes, which open it
in the string and close it further on. -/
theorem exists_opening {next : Nat} (reaches : Python.tripleQuoted.Reaches text i next)
    (before : i < close + 2) :
    ∃ start closed, Python.prefixes.Reaches text i start ∧ StandAt text "'''".toList start ∧
      start + 3 ≤ closed ∧ StandAt text "'''".toList closed := by
  rw [Python.tripleQuoted_eq] at reaches
  obtain ⟨start, letters, double | single⟩ := reaches
  · have opens := ((Python.reaches_between_iff (by decide)).1 double).1
    exact absurd opens (shape.not_standAt_tripleQuote (shape.lt_of_prefixes letters before))
  · obtain ⟨opens, closed, low, closes, _⟩ := (Python.reaches_between_iff (by decide)).1 single
    exact ⟨start, closed, letters, opens, low, closes⟩

theorem tokenAt_tripleQuoted {start closed : Nat} (before : i < close + 2)
    (letters : Python.prefixes.Reaches text i start) (opens : StandAt text "'''".toList start)
    (low : start + 3 ≤ closed) (closes : StandAt text "'''".toList closed)
    (open' : ∀ k, start + 3 ≤ k → k < closed → ¬ StandAt text "'''".toList k) :
    Python.tripleQuoted.tokenAt text i = some ⟨i, closed + 3⟩ :=
  Python.tokenAt_tripleQuoted letters opens low closes open' fun _ letters =>
    shape.not_standAt_tripleQuote (shape.lt_of_prefixes letters before)

theorem not_runsOver_sign :
    ¬ RunsOver Python.tripleQuoted make text (row (lineComment "#") line text (close + 2))
      (close + 2) :=
  (tiles_row (Nat.le_of_lt shape.sign_lt_size)).not_runsOver

/-! ## Place by place -/

section Scan

variable (noSign : ∀ i, i < close + 2 → text[i]? ≠ some '#')
include noSign

theorem front_row_sign (before : i < close + 2) :
    Front i (row (lineComment "#") line text (i + 1)) (row (lineComment "#") line text i) := by
  have size := shape.sign_lt_size
  refine front_row (by omega) (Classical.not_not.1 fun some => noSign i before ?_)
  exact ((shape.tokenAt_lineComment_ne_none_iff (by decide)).1 some).1

/-- Of the places in the string as many are given up as are wanted. -/
theorem skip_row (count : Nat) (inside : i + count ≤ close + 2) :
    skip count i (row (lineComment "#") line text i) =
      row (lineComment "#") line text (i + count) := by
  have size := shape.sign_lt_size
  induction count generalizing i with
  | zero => rfl
  | succ count ih =>
      rw [(shape.front_row_sign noSign (by omega)).skip_succ (tiles_row (by omega)), ih (by omega),
        Nat.add_right_comm, Nat.add_assoc]

/-- Where nothing is found up to the comment, it is not run over. -/
theorem not_runsOver_of_quiet (inside : i ≤ close + 2)
    (quiet : ∀ k, i ≤ k → k < close + 2 → Python.tripleQuoted.tokenAt text k = none) :
    ¬ RunsOver Python.tripleQuoted make text (row (lineComment "#") line text i) (close + 2) := by
  have size := shape.sign_lt_size
  induction inside using Nat.decreasingInduction with
  | self => exact shape.not_runsOver_sign
  | of_succ i early ih =>
      rw [(shape.front_row_sign noSign early).runsOver_iff (tiles_row (by omega))
        (quiet i (Nat.le_refl _) early)]
      exact ih fun k after => quiet k (Nat.le_of_succ_le after)

/-- **Letters in front of quotes make no difference.** -/
theorem runsOver_row_succ (before : i < close + 2) (noQuotes : ¬ StandAt text "'''".toList i) :
    RunsOver Python.tripleQuoted make text (row (lineComment "#") line text i) (close + 2) ↔
      RunsOver Python.tripleQuoted make text (row (lineComment "#") line text (i + 1))
        (close + 2) := by
  have size := shape.sign_lt_size
  have tiles {k : Nat} (inside : k ≤ text.size) : Tiles (fun _ _ => True) k
      (row (lineComment "#") line text k) text.size := tiles_row inside
  have front {k : Nat} (before : k < close + 2) : Front k
      (row (lineComment "#") line text (k + 1)) (row (lineComment "#") line text k) :=
    shape.front_row_sign noSign before
  cases found : Python.tripleQuoted.tokenAt text i with
  | none => exact (front before).runsOver_iff (tiles (by omega)) found
  | some s =>
      obtain ⟨_, reaches⟩ := reaches_of_tokenAt rfl found
      obtain ⟨start, later, letters, opens, low, closes⟩ := shape.exists_opening reaches before
      obtain ⟨closed, low, closes, open'⟩ := exists_first low closes
      have within := shape.lt_of_tripleQuote opens (shape.lt_of_prefixes letters before)
      have further : i < start := by
        refine Nat.lt_of_le_of_ne letters.le ?_
        rintro rfl
        exact noQuotes opens
      obtain ⟨count, isClosed⟩ : ∃ count, closed + 3 = i + 1 + 1 + count :=
        Nat.exists_eq_add_of_le (by omega)
      have here := shape.tokenAt_tripleQuoted before letters opens low closes open'
      have next := shape.tokenAt_tripleQuoted (by omega)
        (Python.prefixes_reaches_succ letters further) opens low closes open'
      rw [isClosed] at next
      rw [isClosed, Nat.add_right_comm (i + 1), Nat.add_assoc (i + 1)] at here
      rw [(front before).runsOver_of_found (tiles (by omega)) here (by omega),
        (front (by omega)).runsOver_of_found (tiles (by omega)) next (by omega),
        (front (by omega)).skip_succ (tiles (by omega))]
      refine or_congr_left ?_
      omega

/-- A string in three quotes that is not closed in the string runs over the comment exactly if it is
closed further on. -/
theorem runsOver_row_of_open {start : Nat} (reads : QuotesReadTo text true close start) :
    RunsOver Python.tripleQuoted make text (row (lineComment "#") line text start) (close + 2) ↔
      ∃ closed, close ≤ closed ∧ StandAt text "'''".toList closed := by
  have size := shape.sign_lt_size
  obtain ⟨low, opens, open'⟩ := reads
  have proper {k : Nat} (low : close ≤ k) (stand : StandAt text "'''".toList k) :
      close + 2 ≤ k := by
    refine Nat.not_lt.1 fun before => ?_
    have := shape.lt_of_tripleQuote stand before
    omega
  constructor
  · intro runs
    by_contra none
    refine shape.not_runsOver_of_quiet noSign (by omega) (fun k after before => ?_) runs
    refine tokenAt_eq_none fun _ reaches => ?_
    obtain ⟨opening, closed, letters, _, low', closes⟩ := shape.exists_opening reaches before
    have := letters.le
    by_cases early : closed < close
    · exact open' closed (by omega) early closes
    · exact none ⟨closed, Nat.not_lt.1 early, closes⟩
  · rintro ⟨later, low', closes⟩
    obtain ⟨closed, low', closes, first⟩ := exists_first low' closes
    have found := shape.tokenAt_tripleQuoted (by omega) (Or.inr rfl) opens (by omega) closes
      fun k after before => by
        by_cases early : k < close
        · exact open' k after early
        · exact first k (Nat.not_lt.1 early) before
    have := proper low' closes
    obtain ⟨count, isClosed⟩ : ∃ count, closed + 3 = start + 1 + count :=
      Nat.exists_eq_add_of_le (by omega)
    rw [isClosed] at found
    rw [(shape.front_row_sign noSign (by omega)).runsOver_of_found (tiles_row (by omega)) found
      (by omega)]
    exact Or.inl (by omega)

/-- Behind the string no string in three quotes begins in front of the comment. -/
theorem tripleQuoted_not_runsOver_close : ¬ RunsOver Python.tripleQuoted make text
    (row (lineComment "#") line text close) (close + 2) := by
  rw [shape.runsOver_row_succ noSign (by omega) (not_standAt_quotes shape.closes (by decide)),
    shape.runsOver_row_succ noSign (by omega) (not_standAt_quotes shape.space (by decide))]
  exact shape.not_runsOver_sign

/-- **Reading on in the string for three quotes.** A string in them runs on over the comment behind
the string exactly if one is open where the string ends and is closed further on. -/
theorem endsInTripleQuotes_iff {inside : Bool} {rest : List Char} {start : Nat}
    (stand : StandAt text rest i) (ends : i + rest.length = close)
    (reads : QuotesReadTo text inside i start) :
    RunsOver Python.tripleQuoted make text (row (lineComment "#") line text start) (close + 2) ↔
      endsInTripleQuotes inside rest = true ∧
        ∃ closed, close ≤ closed ∧ StandAt text "'''".toList closed := by
  have size := shape.sign_lt_size
  fun_induction endsInTripleQuotes inside rest generalizing i start with
  | case1 inside =>
      obtain rfl : i = close := ends
      cases inside with
      | false =>
          obtain rfl : start = i := reads
          exact iff_of_false (shape.tripleQuoted_not_runsOver_close noSign) fun both =>
            Bool.noConfusion both.1
      | true =>
          rw [and_iff_right rfl]
          exact shape.runsOver_row_of_open noSign reads
  | case2 inside rest ih =>
      obtain ⟨first, second, third, later⟩ := stand
      have quotes : StandAt text "'''".toList i := ⟨first, second, third, trivial⟩
      simp only [List.length_cons] at ends
      cases inside with
      | false =>
          obtain rfl : start = i := reads
          exact ih later (by omega)
            ⟨Nat.le_refl _, quotes, fun k low high => absurd high (Nat.not_lt.2 low)⟩
      | true =>
          obtain ⟨low, opens, open'⟩ := reads
          have found := shape.tokenAt_tripleQuoted (by omega) (Or.inr rfl) opens low quotes open'
          obtain ⟨count, isClosed⟩ : ∃ count, i + 3 = start + 1 + count :=
            Nat.exists_eq_add_of_le (by omega)
          rw [isClosed] at found
          rw [(shape.front_row_sign noSign (by omega)).runsOver_of_found (tiles_row (by omega))
              found (by omega), or_iff_right (by omega),
            shape.skip_row noSign count (by omega), ← isClosed]
          exact ih later (by omega) rfl
  | case3 inside c rest noQuotes ih =>
      simp only [List.length_cons] at ends
      have quiet : ¬ StandAt text "'''".toList i := by
        intro quotes
        obtain ⟨isQuote, others, isRest⟩ :=
          shape.eq_cons_of_tripleQuote stand (by omega) quotes
        exact noQuotes others isQuote isRest
      cases inside with
      | false =>
          obtain rfl : start = i := reads
          rw [shape.runsOver_row_succ noSign (by omega) quiet]
          exact ih stand.2 (by omega) rfl
      | true =>
          obtain ⟨low, opens, open'⟩ := reads
          refine ih stand.2 (by omega) ⟨Nat.le_succ_of_le low, opens, fun k after before => ?_⟩
          rcases Nat.lt_succ_iff_lt_or_eq.1 before with early | rfl
          · exact open' k after early
          · exact quiet

end Scan

/-- **A string in three quotes runs on over the comment behind a string** exactly if one is open
where the string ends, and three quotes are in the comment. -/
theorem runsOver_row_iff {b c : List Char} (body : StandAt text b 1) (ends : 1 + b.length = close)
    (rest : StandAt text c (close + 3)) (size : close + 3 + c.length = text.size)
    (noSign : '#' ∉ b) :
    RunsOver Python.tripleQuoted make text (row (lineComment "#") line text 0) (close + 2) ↔
      endsInTripleQuotes false b = true ∧ "'''".toList <:+: c := by
  have reads : QuotesReadTo text false 1 1 := rfl
  have noSign (i : Nat) (before : i < close + 2) : text[i]? ≠ some '#' := fun present =>
    noSign (shape.mem_of_getElem? (by decide) (by decide) body ends present before)
  rw [shape.runsOver_row_succ noSign (by omega) (not_standAt_quotes shape.opens (by decide)),
    shape.endsInTripleQuotes_iff noSign body ends reads]
  refine and_congr_right fun _ => ⟨?_, fun inside => ?_⟩
  · rintro ⟨closed, low, stand⟩
    have fits := stand.le_size (by decide)
    refine stand.isInfix rest (Nat.not_lt.1 fun before => ?_) (size ▸ fits)
    obtain rfl | rfl | rfl : closed = close ∨ closed = close + 1 ∨ closed = close + 2 := by omega
    · exact not_standAt_quotes shape.closes (by decide) stand
    · exact not_standAt_quotes shape.space (by decide) stand
    · exact not_standAt_quotes shape.sign.1 (by decide) stand
  · obtain ⟨first, last, rfl⟩ := inside
    rw [List.append_assoc, standAt_append_iff, standAt_append_iff] at rest
    exact ⟨_, by omega, rest.2.1⟩

end StringThenComment

end Language

end Highlight
