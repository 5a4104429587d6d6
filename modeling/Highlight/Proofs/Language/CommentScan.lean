import Highlight.Proofs.Grammar.PlainText
import Highlight.Proofs.Language.Enclosing

/-!
# Comments read in a string

A text that begins with a string in double quotes and goes on with a comment to the end of the
line (`Language.StringThenComment`) is read for comments first, whatever is in the string. So it is
read as if the string were none, and whether the comment behind it is recognized depends on
whether a comment that has begun in the string is still open where the string ends
(`Language.endsInComment`, `Language.StringThenComment.firstPlain_row_iff`).
-/

namespace Highlight

set_option autoImplicit false

namespace Language

open Piece

/-- Whether a row of characters ends in a comment, given whether it begins in one that is
enclosed. A comment that is not enclosed goes on to the end. -/
def endsInComment : Bool → List Char → Bool
  | inside, [] => inside
  | false, '/' :: '*' :: rest => endsInComment true rest
  | false, '/' :: '/' :: _ => true
  | true, '*' :: '/' :: rest => endsInComment false rest
  | inside, _ :: rest => endsInComment inside rest

/-- Reading for comments has come to a place: outside of any, or inside one that has been opened
before and not been closed since. -/
def ReadTo (text : Array Char) : Bool → Nat → Nat → Prop
  | false, place, from' => from' = place
  | true, place, from' => from' + 2 ≤ place ∧ StandAt text ['/', '*'] from' ∧
      ∀ i, from' + 2 ≤ i → i < place → ¬ StandAt text ['*', '/'] i

/-- A text of one line: a string in double quotes without a quote or a backslash in it, a space,
and a sign with anything behind. -/
structure StringThenComment (text : Array Char) (sign : List Char) (close : Nat) : Prop where
  opens : text[0]? = some '"'
  low : 0 < close
  body : ∀ i : Nat, 0 < i → i < close → ∃ c, text[i]? = some c ∧ c ∉ ['\\', '"', '\r', '\n']
  closes : text[close]? = some '"'
  space : text[close + 1]? = some ' '
  sign : StandAt text sign (close + 2)
  line : ∀ i : Nat, text[i]? ≠ some '\n'

namespace StringThenComment

variable {text : Array Char} {sign : String} {close place : Nat}

/-- A character in front of the sign that is no quote and no space is in the string. -/
theorem within {cs : List Char} (shape : StringThenComment text cs close) {c : Char}
    (noQuote : c ≠ '"') (noSpace : c ≠ ' ') (present : text[place]? = some c)
    (before : place < close + 2) : 0 < place ∧ place < close := by
  have opens := shape.opens
  have closes := shape.closes
  have space := shape.space
  refine Classical.byContradiction fun outside => ?_
  obtain rfl | rfl | rfl : place = 0 ∨ place = close ∨ place = close + 1 := by omega
  · exact noQuote (Option.some.inj (present.symm.trans opens))
  · exact noQuote (Option.some.inj (present.symm.trans closes))
  · exact noSpace (Option.some.inj (present.symm.trans space))

/-- Such a character is one of those in the string. -/
theorem mem_of_getElem? {cs : List Char} (shape : StringThenComment text cs close) {c : Char}
    (noQuote : c ≠ '"') (noSpace : c ≠ ' ') {b : List Char} (stand : StandAt text b 1)
    (ends : 1 + b.length = close) (present : text[place]? = some c) (before : place < close + 2) :
    c ∈ b := by
  obtain ⟨low, high⟩ := shape.within noQuote noSpace present before
  have here := stand.getElem? (show place - 1 < b.length by omega)
  rw [Nat.add_sub_cancel' low, present] at here
  exact List.mem_of_getElem? here.symm

/-- The text begins with the string, which a space follows. -/
theorem beginsWithString {cs : List Char} (shape : StringThenComment text cs close) :
    BeginsWithString text close :=
  ⟨shape.opens, shape.low, shape.body, shape.closes, fun quote =>
    absurd (Option.some.inj (shape.space.symm.trans quote)) (by decide)⟩

/-! ## To the end of the line -/

section Line

variable (shape : StringThenComment text sign.toList close) (proper : 0 < sign.toList.length)
include shape proper

/-- A comment to the end of the line goes on to the end of the text, wherever its sign
stands. -/
theorem tokenAt_lineComment (stand : StandAt text sign.toList place) :
    (lineComment sign).tokenAt text place = some ⟨place, text.size⟩ := by
  refine Language.tokenAt_lineComment proper stand (stand.le_size proper) (Nat.le_refl _)
    (fun i _ _ => shape.line i) fun c present => ?_
  rw [Array.getElem?_eq_none (Nat.le_refl _)] at present
  cases present

theorem tokenAt_lineComment_ne_none_iff :
    (lineComment sign).tokenAt text place ≠ none ↔ StandAt text sign.toList place := by
  constructor
  · intro some
    obtain ⟨s, found⟩ := Option.ne_none_iff_exists'.1 some
    exact (standAt_of_lineComment found).2
  · intro stand
    rw [shape.tokenAt_lineComment proper stand]
    exact Option.some_ne_none _

/-- **The comment behind the string is recognized** by the rule for its sign exactly if its
place is the first one of the plain text where the sign stands. -/
theorem token_mem_lineComment_iff {made : Span → Token → Prop} {make : Array Char → Token}
    {pieces : List Piece} (tiles : Tiles made 0 pieces text.size)
    (fresh : ∀ span t, token span t ∈ pieces → span.start ≠ close + 2) :
    token ⟨close + 2, text.size⟩ (make ((⟨close + 2, text.size⟩ : Span).slice text)) ∈
        carveGreedy (lineComment sign) make text pieces ↔
      PlainAt pieces (close + 2) ∧
        ∀ i, i < close + 2 → StandAt text sign.toList i → ¬ PlainAt pieces i := by
  rw [tiles.token_mem_carveGreedy_iff (fun i s found => ?_)
    ((shape.tokenAt_lineComment_ne_none_iff proper).2 shape.sign) fresh]
  · simp only [FirstPlain, shape.tokenAt_lineComment_ne_none_iff proper]
  · obtain ⟨_, stand⟩ := standAt_of_lineComment found
    exact Option.some.inj (found.symm.trans (shape.tokenAt_lineComment proper stand))

end Line

/-! ## Enclosed comments in the string -/

section Slashes

variable (shape : StringThenComment text "//".toList close)

theorem standAt_two_iff {c d : Char} : StandAt text [c, d] place ↔
    text[place]? = some c ∧ text[place + 1]? = some d := by
  simp only [StandAt, and_true]

theorem blockComment_opens {s : Span} (found : blockComment.tokenAt text place = some s) :
    s.start = place ∧ text[place]? = some '/' ∧ text[place + 1]? = some '*' := by
  obtain ⟨start, reaches⟩ := Pattern.reaches_of_tokenAt hasToken_enclosedComment found
  exact ⟨start, standAt_two_iff.1 (reaches_enclosedComment_iff.1 reaches).1⟩

include shape

/-- No sign of two characters reaches out of the string. -/
theorem not_standAt {c d : Char} (noQuote : c ≠ '"') (noQuote' : d ≠ '"') (noSpace : c ≠ ' ')
    (low : close ≤ place + 1) (high : place ≤ close + 1) : ¬ StandAt text [c, d] place := by
  rw [standAt_two_iff]
  rintro ⟨first, second⟩
  have closes := shape.closes
  have space := shape.space
  obtain rfl | rfl | rfl : close = place + 1 ∨ close = place ∨ close + 1 = place := by omega
  · exact noQuote' (Option.some.inj (second.symm.trans closes))
  · exact noQuote (Option.some.inj (first.symm.trans closes))
  · exact noSpace (Option.some.inj (first.symm.trans space))

/-- Where no comment is opened, both rules for comments pass on. -/
theorem firstPlain_pass {make : Array Char → Token} {i first : Nat} (inside : i < text.size)
    (noBlock : ¬ StandAt text ['/', '*'] i) (noLine : ¬ StandAt text ['/', '/'] i)
    (later : first ≠ i) :
    FirstPlain (lineComment "//") text (row blockComment make text i) first ↔
      FirstPlain (lineComment "//") text (row blockComment make text (i + 1)) first := by
  refine firstPlain_row_succ inside ?_ ?_ later
  · refine Classical.not_not.1 fun some => noBlock ?_
    obtain ⟨s, found⟩ := Option.ne_none_iff_exists'.1 some
    exact standAt_two_iff.2 (blockComment_opens found).2
  · exact Classical.not_not.1 fun some =>
      noLine ((shape.tokenAt_lineComment_ne_none_iff (by decide)).1 some)

theorem sign_size : close + 4 ≤ text.size := shape.sign.le_size (by decide)

/-- Behind the string, in plain text, the comment comes first. -/
theorem firstPlain_close {make : Array Char → Token} :
    FirstPlain (lineComment "//") text (row blockComment make text close) (close + 2) := by
  have size := shape.sign_size
  rw [shape.firstPlain_pass (by omega)
      (shape.not_standAt (by decide) (by decide) (by decide) (by omega) (by omega))
      (shape.not_standAt (by decide) (by decide) (by decide) (by omega) (by omega)) (by omega),
    shape.firstPlain_pass (by omega)
      (shape.not_standAt (by decide) (by decide) (by decide) (by omega) (by omega))
      (shape.not_standAt (by decide) (by decide) (by decide) (by omega) (by omega)) (by omega)]
  have opens := standAt_two_iff.1 shape.sign
  have noBlock : blockComment.tokenAt text (close + 2) = none := by
    refine Classical.not_not.1 fun some => ?_
    obtain ⟨s, found⟩ := Option.ne_none_iff_exists'.1 some
    have star := (blockComment_opens found).2.2
    exact absurd (Option.some.inj (star.symm.trans opens.2)) (by decide)
  refine ⟨(plainAt_row_succ (by omega) noBlock).2 (Or.inl rfl), fun i early _ isPlain => ?_⟩
  have := ((tiles_row (by omega)).bounds_of_plainAt isPlain).1
  omega

/-- A comment that is open where the string ends takes the comment behind it. -/
theorem not_firstPlain_of_open {make : Array Char → Token} {i : Nat} (low : i + 2 ≤ close)
    (opens : StandAt text ['/', '*'] i)
    (open' : ∀ k, i + 2 ≤ k → k < close → ¬ StandAt text ['*', '/'] k) :
    ¬ FirstPlain (lineComment "//") text (row blockComment make text i) (close + 2) := by
  have size := shape.sign_size
  have two : "/*".toList.length = 2 := rfl
  have two' : "*/".toList.length = 2 := rfl
  have proper (next : Nat) (reaches : blockComment.Reaches text i next) : i < next := by
    obtain ⟨_, closed, low, _, ⟨_, ends⟩ | ⟨ends, _⟩⟩ := reaches_enclosedComment_iff.1 reaches
    · omega
    · omega
  have some : blockComment.tokenAt text i ≠ none :=
    Pattern.tokenAt_ne_none hasToken_enclosedComment proper (reaches_enclosedComment_iff.2
      ⟨opens, text.size, by omega, Nat.le_refl _, Or.inr ⟨rfl, rfl⟩⟩)
  obtain ⟨⟨start, stop⟩, found⟩ := Option.ne_none_iff_exists'.1 some
  obtain ⟨rfl, reaches⟩ := Pattern.reaches_of_tokenAt hasToken_enclosedComment found
  have beyond : close + 2 < stop := by
    obtain ⟨_, closed, after, _, ⟨closes, ends⟩ | ⟨ends, isEnd⟩⟩ :=
      reaches_enclosedComment_iff.1 reaches
    · have late : close ≤ closed :=
        Nat.not_lt.1 fun early => open' closed (two ▸ after) early closes
      have later : ¬ closed ≤ close + 1 := fun high => shape.not_standAt (by decide) (by decide)
        (by decide) (Nat.le_succ_of_le late) high closes
      simp only at ends
      omega
    · simp only at ends
      omega
  rw [firstPlain_row_token found]
  intro first
  have after := ((tiles_row (Pattern.tokenAt_bounds found).2.2).bounds_of_plainAt first.1).1
  exact absurd beyond (Nat.not_lt.2 after)

/-- A sign of two characters that begins in the string has both of them there. -/
theorem eq_cons_of_standAt_two {c c' d : Char} {rest : List Char} {i : Nat}
    (stand : StandAt text (c :: rest) i) (ends : i + 1 + rest.length = close) (noQuote : d ≠ '"')
    (two : StandAt text [c', d] i) : c = c' ∧ ∃ others, rest = d :: others := by
  obtain ⟨present, later⟩ := stand
  obtain ⟨first, second⟩ := standAt_two_iff.1 two
  refine ⟨Option.some.inj (present.symm.trans first), ?_⟩
  cases rest with
  | nil =>
      have closes := shape.closes
      rw [← ends] at closes
      exact absurd (Option.some.inj (second.symm.trans closes)) noQuote
  | cons e others =>
      exact ⟨others, congrArg (· :: others) (Option.some.inj (later.1.symm.trans second))⟩

/-- Where a comment to the end of the line begins in the string, the one behind it is not the
first. -/
theorem not_firstPlain_of_slashes {make : Array Char → Token} {i : Nat} (before : i < close)
    (slashes : StandAt text ['/', '/'] i) :
    ¬ FirstPlain (lineComment "//") text (row blockComment make text i) (close + 2) := by
  have size := shape.sign_size
  have noBlock : blockComment.tokenAt text i = none := by
    refine Classical.not_not.1 fun some => ?_
    obtain ⟨s, found⟩ := Option.ne_none_iff_exists'.1 some
    have star := (blockComment_opens found).2.2
    exact absurd (Option.some.inj (star.symm.trans (standAt_two_iff.1 slashes).2)) (by decide)
  intro first
  refine first.2 i (by omega) ?_ ((plainAt_row_succ (by omega) noBlock).2 (Or.inl rfl))
  exact (shape.tokenAt_lineComment_ne_none_iff (by decide)).2 slashes

/-- **Reading on in the string.** The comment behind the string comes first in plain text exactly
if the rest of the string does not end in a comment. -/
theorem firstPlain_row_iff (make : Array Char → Token) {inside : Bool} {rest : List Char}
    {i from' : Nat} (stand : StandAt text rest i) (ends : i + rest.length = close)
    (reads : ReadTo text inside i from') :
    endsInComment inside rest = false ↔
      FirstPlain (lineComment "//") text (row blockComment make text from') (close + 2) := by
  have size := shape.sign_size
  fun_induction endsInComment inside rest generalizing i from' with
  | case1 inside =>
      obtain rfl : i = close := ends
      cases inside with
      | false =>
          obtain rfl : from' = i := reads
          exact iff_of_true rfl shape.firstPlain_close
      | true =>
          obtain ⟨low, opens, open'⟩ := reads
          exact iff_of_false Bool.true_eq_false.mp (shape.not_firstPlain_of_open low opens open')
  | case2 rest ih =>
      obtain ⟨slash, star, later⟩ := stand
      obtain rfl : from' = i := reads
      simp only [List.length_cons] at ends
      exact ih later (by omega)
        ⟨Nat.le_refl _, ⟨slash, star, trivial⟩, fun k low high => absurd high (Nat.not_lt.2 low)⟩
  | case3 rest =>
      obtain ⟨slash, slash', _⟩ := stand
      obtain rfl : from' = i := reads
      simp only [List.length_cons] at ends
      exact iff_of_false Bool.true_eq_false.mp
        (shape.not_firstPlain_of_slashes (by omega) ⟨slash, slash', trivial⟩)
  | case4 rest ih =>
      obtain ⟨star, slash, later⟩ := stand
      obtain ⟨low, opens, open'⟩ := reads
      simp only [List.length_cons] at ends
      have found : blockComment.tokenAt text from' = some ⟨from', i + 2⟩ :=
        tokenAt_enclosedComment (by decide) opens low (by omega) ⟨star, slash, trivial⟩ open'
      rw [firstPlain_row_token found]
      exact ih later (by omega) rfl
  | case5 inside c rest noBlock noLine noEnd ih =>
      simp only [List.length_cons] at ends
      have both {c' d : Char} (noQuote : d ≠ '"') (two : StandAt text [c', d] i) :=
        shape.eq_cons_of_standAt_two stand (by omega) noQuote two
      obtain ⟨present, later⟩ := stand
      cases inside with
      | false =>
          obtain rfl : from' = i := reads
          rw [shape.firstPlain_pass (by omega) (fun opens => ?_) (fun opens => ?_) (by omega)]
          · exact ih later (by omega) rfl
          · obtain ⟨isSlash, others, isRest⟩ := both (by decide) opens
            exact noBlock others rfl isSlash isRest
          · obtain ⟨isSlash, others, isRest⟩ := both (by decide) opens
            exact noLine others rfl isSlash isRest
      | true =>
          obtain ⟨low, opens, open'⟩ := reads
          refine ih later (by omega) ⟨Nat.le_succ_of_le low, opens, fun k after before => ?_⟩
          rcases Nat.lt_succ_iff_lt_or_eq.1 before with early | rfl
          · exact open' k after early
          · intro closes
            obtain ⟨isStar, others, isRest⟩ := both (by decide) closes
            exact noEnd others rfl isStar isRest

/-- **The rules for both kinds of comments recognize the comment behind the string** exactly if the
string does not end in a comment. -/
theorem comment_mem_slashes_iff (block line : Array Char → Token) {b : List Char}
    (stand : StandAt text b 1) (ends : 1 + b.length = close) :
    token ⟨close + 2, text.size⟩ (line ((⟨close + 2, text.size⟩ : Span).slice text)) ∈
        carveGreedy (lineComment "//") line text
          (carveGreedy blockComment block text (Piece.start text)) ↔
      endsInComment false b = false := by
  have size := shape.sign_size
  have opens := standAt_two_iff.1 shape.sign
  have quote {c d : Char} (noQuote : c ≠ '"') : ¬ StandAt text [c, d] 0 := fun stand =>
    noQuote (Option.some.inj ((standAt_two_iff.1 stand).1.symm.trans shape.opens))
  have reads : ReadTo text false 1 1 := rfl
  rw [shape.firstPlain_row_iff block stand ends reads,
    ← shape.firstPlain_pass (by omega) (quote (by decide)) (quote (by decide)) (by omega)]
  simp only [FirstPlain, shape.tokenAt_lineComment_ne_none_iff (by decide)]
  refine shape.token_mem_lineComment_iff (by decide) (tiles_row (Nat.zero_le _))
    fun span t member => ?_
  obtain ⟨⟨place, found⟩, _⟩ :=
    (mem_or_made_of_mem_carveGreedy member).resolve_left token_notMem_plainUnlessEmpty
  obtain ⟨first, _, at', _⟩ := Pattern.find_eq_some_iff.1 found
  obtain ⟨rfl, _, star⟩ := blockComment_opens at'
  intro same
  rw [same] at star
  exact absurd (Option.some.inj (star.symm.trans opens.2)) (by decide)

end Slashes

/-- **A rule for one kind of comment recognizes the comment behind the string** exactly if its
sign is not in the string. -/
theorem comment_mem_sign_iff (shape : StringThenComment text sign.toList close)
    (make : Array Char → Token) {c : Char} (noQuote : c ≠ '"') (noSpace : c ≠ ' ')
    (isSign : sign.toList = [c]) {b : List Char} (stand : StandAt text b 1)
    (ends : 1 + b.length = close) :
    token ⟨close + 2, text.size⟩ (make ((⟨close + 2, text.size⟩ : Span).slice text)) ∈
        carveGreedy (lineComment sign) make text (Piece.start text) ↔ c ∉ b := by
  have proper : 0 < sign.toList.length := by rw [isSign]; exact Nat.one_pos
  have size := shape.sign.le_size proper
  have isPlain (i : Nat) (inside : i < text.size) : PlainAt (Piece.start text) i :=
    plainAt_plainUnlessEmpty.2 ⟨Nat.zero_le i, inside⟩
  have tiles : Tiles (fun _ _ => True) 0 (Piece.start text) text.size := tiles_start text
  rw [shape.token_mem_lineComment_iff proper tiles
    fun span t member => absurd member token_notMem_plainUnlessEmpty]
  have stands (i : Nat) : StandAt text sign.toList i ↔ text[i]? = some c := by
    rw [isSign]
    simp only [StandAt, and_true]
  simp only [stands]
  constructor
  · rintro ⟨_, first⟩ member
    obtain ⟨i, inside, rfl⟩ := List.mem_iff_getElem.1 member
    refine first (1 + i) (by omega) ?_ (isPlain _ (by omega))
    rw [stand.getElem? inside, List.getElem?_eq_getElem inside]
  · intro notMem
    refine ⟨isPlain _ (by omega), fun i early isSign' _ => ?_⟩
    exact notMem (shape.mem_of_getElem? noQuote noSpace stand ends isSign' early)

end StringThenComment

end Language

end Highlight
