import Highlight.Proofs.Grammar.PlaceByPlace
import Highlight.Proofs.Language.CommentScan
import Highlight.Proofs.Language.LongStrings

/-!
# Template literals that begin in a string

A string with a comment behind it (`Language.StringThenComment`) is read for comments first and for
template literals then, as if it were no string. A template literal does not begin in a comment
that has been recognized. But it may run on into one, which is a comment no more then: what is left
of it is plain text, and a further template literal may begin there. So both have to be followed
at once (`Language.Reading`), and whether a template literal runs on over the comment behind the
string is read off the string and what stands behind it
(`Language.templateRunsOn`, `Language.StringThenComment.templateRunsOn_iff`).
-/

namespace Highlight

set_option autoImplicit false

namespace Language

open Pattern Piece

/-- How the reading of a string for comments stands: outside of any, or in an enclosed one, which is
kept as a comment unless a template literal has taken its beginning. -/
inductive Reading where
  | outside
  | inComment (kept : Bool)
deriving DecidableEq

/-- Whether the reading is within a comment. -/
def Reading.isInside : Reading → Bool
  | outside => false
  | inComment _ => true

/-- Whether a template literal that begins in the rest of a string runs on into what stands behind
it. A number of characters is still to be passed over that belong to a template literal. -/
def templateRunsOn (behind : List Char) : Nat → Reading → List Char → Bool
  | _, _, [] => false
  | count, .outside, '/' :: '*' :: rest =>
      templateRunsOn behind (count - 2) (.inComment (count == 0)) rest
  | count, .inComment _, '*' :: '/' :: rest => templateRunsOn behind (count - 2) .outside rest
  | count + 1, reading, _ :: rest => templateRunsOn behind count reading rest
  | 0, reading, c :: rest =>
      if c = backtick ∧ reading ≠ .inComment true then
        match JavaScript.templateLength? false (rest ++ behind) with
        | none => templateRunsOn behind 0 reading rest
        | some count => decide (rest.length < count) || templateRunsOn behind count reading rest
      else templateRunsOn behind 0 reading rest

/-- A template literal that runs on begins at a backtick. -/
theorem backtick_mem_of_templateRunsOn {behind cs : List Char} {count : Nat} {reading : Reading}
    (runs : templateRunsOn behind count reading cs = true) : backtick ∈ cs := by
  fun_induction templateRunsOn behind count reading cs with
  | case1 count reading => exact Bool.noConfusion runs
  | case2 count rest ih => exact List.mem_cons_of_mem _ (List.mem_cons_of_mem _ (ih runs))
  | case3 count kept rest ih => exact List.mem_cons_of_mem _ (List.mem_cons_of_mem _ (ih runs))
  | case4 count reading c rest noOpen noClose ih => exact List.mem_cons_of_mem _ (ih runs)
  | case5 reading c rest noOpen noClose opens none ih => exact List.mem_cons_of_mem _ (ih runs)
  | case6 reading c rest noOpen noClose opens count length ih =>
      exact opens.1 ▸ List.mem_cons_self
  | case7 reading c rest noOpen noClose passes ih => exact List.mem_cons_of_mem _ (ih runs)

/-! ## Reading for comments -/

/-- Where neither a comment begins nor the sign stands that closes one, the reading goes on. -/
theorem endsInComment_cons {inside : Bool} {c : Char} {rest : List Char}
    (noBlock : ∀ others, inside = false → c = '/' → rest = '*' :: others → False)
    (noLine : ∀ others, inside = false → c = '/' → rest = '/' :: others → False)
    (noEnd : ∀ others, inside = true → c = '*' → rest = '/' :: others → False) :
    endsInComment inside (c :: rest) = endsInComment inside rest := by
  rw [endsInComment] <;> assumption

/-- An enclosed comment that does not reach to the end is closed at the first sign for that. -/
theorem exists_closed {text : Array Char} {rest : List Char} {i : Nat}
    (read : endsInComment true rest = false) (stand : StandAt text rest i) :
    ∃ closed, i ≤ closed ∧ closed + 2 ≤ i + rest.length ∧ StandAt text ['*', '/'] closed ∧
      ∀ k, i ≤ k → k < closed → ¬ StandAt text ['*', '/'] k := by
  induction rest generalizing i with
  | nil => cases read
  | cons c rest ih =>
      by_cases ends : c = '*' ∧ ∃ others, rest = '/' :: others
      · obtain ⟨rfl, others, rfl⟩ := ends
        refine ⟨i, Nat.le_refl i, ?_, ⟨stand.1, stand.2.1, trivial⟩,
          fun k low high => absurd high (Nat.not_lt.2 low)⟩
        simp only [List.length_cons]
        omega
      · have noEnd (others : List Char) (_ : true = true) (star : c = '*')
            (slash : rest = '/' :: others) : False := ends ⟨star, others, slash⟩
        rw [endsInComment_cons (fun _ no => Bool.noConfusion no) (fun _ no => Bool.noConfusion no)
          noEnd] at read
        obtain ⟨closed, low, high, closes, open'⟩ := ih read stand.2
        refine ⟨closed, Nat.le_of_succ_le low, by simp only [List.length_cons]; omega, closes,
          fun k after before => ?_⟩
        rcases Nat.eq_or_lt_of_le after with rfl | later
        · rintro ⟨first, second, _⟩
          cases rest with
          | nil => simp only [List.length_nil] at high; omega
          | cons d others =>
              refine noEnd others rfl (Option.some.inj (stand.1.symm.trans first)) ?_
              rw [Option.some.inj (stand.2.1.symm.trans second)]
        · exact open' k later before

namespace StringThenComment

variable {text : Array Char} {close i stop : Nat} {c : Char} {rest : List Char}

section Pieces

variable (block line : Array Char → Token)

/-- What the rules for comments make of the rest of a text. -/
def commentPieces (text : Array Char) (i : Nat) : List Piece :=
  carveGreedy (lineComment "//") line text (row blockComment block text i)

theorem tiles_commentPieces (inside : i ≤ text.size) :
    Tiles (fun _ _ => True) i (commentPieces block line text i) text.size :=
  (tiles_row inside).carveGreedy fun _ _ _ => trivial

theorem commentPieces_of_tokenAt (found : blockComment.tokenAt text i = some ⟨i, stop⟩) :
    commentPieces block line text i =
      token ⟨i, stop⟩ (block ((⟨i, stop⟩ : Span).slice text)) ::
        commentPieces block line text stop := by
  rw [commentPieces, row_of_tokenAt found, carveGreedy, commentPieces]

variable (shape : StringThenComment text "//".toList close)
include shape

/-- Where no comment begins, there is one more place of plain text in front. -/
theorem front_commentPieces (inside : i < text.size) (noBlock : ¬ StandAt text ['/', '*'] i)
    (noLine : ¬ StandAt text ['/', '/'] i) :
    Front i (commentPieces block line text (i + 1)) (commentPieces block line text i) := by
  have quiet : blockComment.tokenAt text i = none := by
    refine Classical.not_not.1 fun some => noBlock ?_
    obtain ⟨s, found⟩ := Option.ne_none_iff_exists'.1 some
    exact standAt_two_iff.2 (blockComment_opens found).2
  have quiet' : (lineComment "//").tokenAt text i = none := Classical.not_not.1 fun some =>
    noLine ((shape.tokenAt_lineComment_ne_none_iff (by decide)).1 some)
  exact (front_row inside quiet).carveGreedy (tiles_row inside) quiet'

end Pieces

/-- What is left of the pieces where the reading for comments has come to a place. -/
inductive Left (block line : Array Char → Token) (text : Array Char) (close : Nat) :
    Reading → Nat → List Piece → Prop where
  | outside (i : Nat) : Left block line text close .outside i (commentPieces block line text i)
  | inComment {i closed : Nat} (kept : Bool) (low : i ≤ closed) (high : closed + 2 ≤ close)
      (closes : StandAt text ['*', '/'] closed)
      (open' : ∀ k, i ≤ k → k < closed → ¬ StandAt text ['*', '/'] k) :
      Left block line text close (.inComment kept) i
        ((if kept then [] else plainUnlessEmpty ⟨i, closed + 2⟩) ++
          commentPieces block line text (closed + 2))

/-- What is left before the reading has gone one character on and afterwards. In a comment that is
kept it is the same, and elsewhere there is one place of plain text less. -/
structure Step (text : Array Char) (reading : Reading) (i : Nat) (others pieces : List Piece) :
    Prop where
  kept : reading = .inComment true → others = pieces
  front : reading ≠ .inComment true → Front i others pieces
  tiles : reading ≠ .inComment true → Tiles (fun _ _ => True) (i + 1) others text.size

/-- A step at which no template literal begins makes no difference. -/
theorem Step.runsOver_iff {reading : Reading} {others pieces : List Piece}
    {make : Array Char → Token} {place : Nat} (step : Step text reading i others pieces)
    (quiet : reading ≠ .inComment true → JavaScript.template.tokenAt text i = none) :
    RunsOver JavaScript.template make text others place ↔
      RunsOver JavaScript.template make text pieces place := by
  by_cases isKept : reading = .inComment true
  · rw [step.kept isKept]
  · exact ((step.front isKept).runsOver_iff (step.tiles isKept) (quiet isKept)).symm

/-- A number of characters belong to a template literal, up to the backtick that closes it. No
comment is kept that it has run into. -/
structure Passes (text : Array Char) (reading : Reading) (i count : Nat) : Prop where
  closes : 0 < count → text[i + count - 1]? = some backtick
  free : reading = .inComment true → count = 0

namespace Passes

variable {reading : Reading} {count : Nat}

theorem none (text : Array Char) (reading : Reading) (i : Nat) : Passes text reading i 0 :=
  ⟨fun no => absurd no (Nat.lt_irrefl 0), fun _ => rfl⟩

theorem next (passes : Passes text reading i (count + 1)) : Passes text reading (i + 1) count := by
  refine ⟨fun _ => ?_, fun kept => absurd (passes.free kept) (Nat.succ_ne_zero count)⟩
  rw [Nat.add_right_comm, Nat.add_assoc]
  exact passes.closes (Nat.succ_pos count)

/-- Of two characters at once neither is the backtick. -/
theorem proper (passes : Passes text reading i count) (present : text[i]? = some c)
    (other : c ≠ backtick) : count = 0 ∨ 2 ≤ count := by
  refine Classical.or_iff_not_imp_left.2 fun some => Nat.lt_of_le_of_ne (by omega) ?_
  rintro rfl
  exact other (Option.some.inj (present.symm.trans (passes.closes Nat.one_pos)))

theorem two {other : Reading} (passes : Passes text reading i count)
    (free : other = .inComment true → count = 0) : Passes text other (i + 2) (count - 2) := by
  refine ⟨fun some => ?_, fun kept => by rw [free kept]⟩
  have moved : i + 2 + (count - 2) - 1 = i + count - 1 := by omega
  rw [moved]
  exact passes.closes (by omega)

end Passes

/-- Where a template literal that begins in the string ends is read off the rest of the string and
what stands behind it. -/
theorem tokenAt_template_behind {behind : List Char} (tail : StandAt text behind close)
    (size : close + behind.length = text.size) (opens : text[i]? = some backtick)
    (stand : StandAt text rest (i + 1)) (ends : i + 1 + rest.length = close) :
    JavaScript.template.tokenAt text i =
        (JavaScript.templateLength? false (rest ++ behind)).map (fun n => ⟨i, i + 1 + n⟩) ∧
      ∀ n, JavaScript.templateLength? false (rest ++ behind) = some n →
        ∃ last, n = last + 1 ∧ text[i + 1 + last]? = some backtick := by
  have all : StandAt text (rest ++ behind) (i + 1) := standAt_append_iff.2 ⟨stand, ends ▸ tail⟩
  have length : i + 1 + (rest ++ behind).length = text.size := by
    rw [List.length_append, ← size]
    omega
  exact ⟨JavaScript.tokenAt_template opens all length, fun _ =>
    JavaScript.backtick_of_templateLength? all length⟩

section Scan

variable {block line : Array Char → Token} (shape : StringThenComment text "//".toList close)
  {reading : Reading} {pieces : List Piece}
include shape

/-- The reading goes on from one character to the next, unless a comment begins or ends there. -/
theorem Left.next (left : Left block line text close reading i pieces)
    (stand : StandAt text (c :: rest) i) (ends : i + 1 + rest.length = close)
    (noOpen : ∀ others, reading = .outside → c = '/' → rest = '*' :: others → False)
    (noClose : ∀ kept others, reading = .inComment kept → c = '*' → rest = '/' :: others → False)
    (read : endsInComment reading.isInside (c :: rest) = false) :
    endsInComment reading.isInside rest = false ∧
      ∃ others, Left block line text close reading (i + 1) others ∧
        Step text reading i others pieces := by
  have size := shape.sign_size
  have both {c' d : Char} (noQuote : d ≠ '"') (two : StandAt text [c', d] i) :=
    shape.eq_cons_of_standAt_two stand ends noQuote two
  cases left with
  | outside i =>
      have noLine (others : List Char) (isSlash : c = '/') (isRest : rest = '/' :: others) :
          False := by
        rw [isSlash, isRest] at read
        cases read
      rw [Reading.isInside, endsInComment_cons (fun others _ => noOpen others rfl)
        (fun others _ => noLine others) fun _ no => Bool.noConfusion no] at read
      refine ⟨read, _, .outside (i + 1), Reading.noConfusion, fun _ => ?_,
        fun _ => tiles_commentPieces block line (by omega)⟩
      refine shape.front_commentPieces block line (by omega) (fun opens => ?_) fun opens => ?_
      · obtain ⟨isSlash, others, isRest⟩ := both (by decide) opens
        exact noOpen others rfl isSlash isRest
      · obtain ⟨isSlash, others, isRest⟩ := both (by decide) opens
        exact noLine others isSlash isRest
  | @inComment i closed kept low high closes open' =>
      have later : i + 1 ≤ closed := by
        refine Nat.lt_of_le_of_ne low ?_
        rintro rfl
        obtain ⟨isStar, others, isRest⟩ := both (by decide) closes
        exact noClose kept others rfl isStar isRest
      rw [Reading.isInside, endsInComment_cons (fun _ no => Bool.noConfusion no)
        (fun _ no => Bool.noConfusion no) fun others _ => noClose kept others rfl] at read
      refine ⟨read, _, .inComment kept later high closes
        fun k after => open' k (Nat.le_of_succ_le after), ?_⟩
      have tiles := tiles_commentPieces block line (by omega : closed + 2 ≤ text.size)
      cases kept with
      | true => exact ⟨fun _ => rfl, fun no => absurd rfl no, fun no => absurd rfl no⟩
      | false =>
          exact ⟨nofun, fun _ => front_plainUnlessEmpty (by omega) _,
            fun _ => tiles_plainUnlessEmpty_append tiles (by omega)⟩

/-- Behind the string no template literal begins in front of the comment. -/
theorem template_not_runsOver_close {make : Array Char → Token} :
    ¬ RunsOver JavaScript.template make text (commentPieces block line text close) (close + 2) := by
  have size := shape.sign_size
  have pass {i : Nat} (low : close ≤ i) (high : i ≤ close + 1) {c : Char}
      (present : text[i]? = some c) (other : c ≠ backtick) :
      RunsOver JavaScript.template make text (commentPieces block line text i) (close + 2) ↔
        RunsOver JavaScript.template make text (commentPieces block line text (i + 1))
          (close + 2) := by
    refine (shape.front_commentPieces block line (by omega) ?_ ?_).runsOver_iff
      (tiles_commentPieces block line (by omega)) (JavaScript.tokenAt_template_of_other ?_)
    · exact shape.not_standAt (by decide) (by decide) (by decide) (by omega) high
    · exact shape.not_standAt (by decide) (by decide) (by decide) (by omega) high
    · exact fun closes => other (Option.some.inj (present.symm.trans closes))
  rw [pass (Nat.le_refl _) (Nat.le_succ _) shape.closes (by decide),
    pass (Nat.le_succ _) (Nat.le_refl _) shape.space (by decide)]
  exact (tiles_commentPieces block line (by omega)).not_runsOver

/-- Where a comment begins in the string, it is read on behind its sign. -/
theorem Left.opens {make : Array Char → Token} {count : Nat} (ends : i + 2 + rest.length = close)
    (stand : StandAt text ('/' :: '*' :: rest) i) (read : endsInComment true rest = false)
    (passes : Passes text .outside i count) :
    ∃ others, Left block line text close (.inComment (count == 0)) (i + 2) others ∧
      (RunsOver JavaScript.template make text (skip (count - 2) (i + 2) others) (close + 2) ↔
        RunsOver JavaScript.template make text (skip count i (commentPieces block line text i))
          (close + 2)) := by
  have size := shape.sign_size
  obtain ⟨slash, star, later⟩ := stand
  obtain ⟨closed, low, inside, closes, open'⟩ := exists_closed read later
  refine ⟨_, .inComment _ low (by omega) closes open', ?_⟩
  have tiles := tiles_commentPieces block line (by omega : closed + 2 ≤ text.size)
  have found : blockComment.tokenAt text i = some ⟨i, closed + 2⟩ :=
    tokenAt_enclosedComment (by decide) ⟨slash, star, trivial⟩ low (by omega) closes open'
  rw [commentPieces_of_tokenAt block line found]
  rcases passes.proper slash (by decide) with rfl | proper
  · exact (runsOver_token_cons (by simp only; omega)).symm
  · obtain ⟨more, rfl⟩ := Nat.exists_eq_add_of_le' proper
    have plain : plainUnlessEmpty ⟨i, closed + 2⟩ = [Piece.plain ⟨i, closed + 2⟩] :=
      if_pos (by simp only; omega)
    rw [skip_token, ← List.singleton_append, ← plain, skip_plain tiles more 2 (by omega)]
    exact Iff.rfl

/-- Where a comment ends in the string, the reading goes on outside of it. -/
theorem Left.closes {make : Array Char → Token} {kept : Bool} {count : Nat}
    (left : Left block line text close (.inComment kept) i pieces)
    (sign : StandAt text ['*', '/'] i) (passes : Passes text (.inComment kept) i count) :
    RunsOver JavaScript.template make text
        (skip (count - 2) (i + 2) (commentPieces block line text (i + 2))) (close + 2) ↔
      RunsOver JavaScript.template make text (skip count i pieces) (close + 2) := by
  have size := shape.sign_size
  cases left with
  | @inComment i closed kept low high closes open' =>
      obtain rfl : i = closed := by
        refine Nat.le_antisymm low (Nat.not_lt.1 fun later => ?_)
        exact open' i (Nat.le_refl i) later sign
      cases kept with
      | true =>
          obtain rfl := passes.free rfl
          exact Iff.rfl
      | false =>
          have tiles := tiles_commentPieces block line (by omega : i + 2 ≤ text.size)
          rcases passes.proper sign.1 (by decide) with rfl | proper
          · refine (runsOver_plain_iff tiles (Nat.le_add_right _ _) fun k low high => ?_).symm
            refine JavaScript.tokenAt_template_of_other fun isQuote => ?_
            obtain ⟨star, slash⟩ := standAt_two_iff.1 sign
            rcases Nat.eq_or_lt_of_le low with rfl | later
            · exact absurd (Option.some.inj (star.symm.trans isQuote)) (by decide)
            · obtain rfl : k = i + 1 := by omega
              exact absurd (Option.some.inj (slash.symm.trans isQuote)) (by decide)
          · obtain ⟨more, rfl⟩ := Nat.exists_eq_add_of_le' proper
            simp only [Bool.false_eq_true, if_false]
            rw [skip_plain tiles more 2 (Nat.le_refl _), plainUnlessEmpty_self, List.nil_append]
            exact Iff.rfl

/-- A backtick behind the string is behind the space as well. -/
theorem le_of_backtick (present : text[i]? = some backtick) (low : close ≤ i) : close + 2 ≤ i := by
  refine Nat.not_lt.1 fun before => ?_
  have := shape.within (by decide) (by decide) present before
  omega

/-- **Reading on in the string for template literals.** One of them runs on over the comment behind
the string exactly if that is read off the rest of the string and what stands behind it. -/
theorem templateRunsOn_iff {make : Array Char → Token} {behind : List Char} {count : Nat}
    (tail : StandAt text behind close) (size : close + behind.length = text.size)
    (left : Left block line text close reading i pieces) (stand : StandAt text rest i)
    (ends : i + rest.length = close) (read : endsInComment reading.isInside rest = false)
    (room : i + count ≤ close) (passes : Passes text reading i count) :
    templateRunsOn behind count reading rest = true ↔
      RunsOver JavaScript.template make text (skip count i pieces) (close + 2) := by
  fun_induction templateRunsOn behind count reading rest generalizing i pieces with
  | case1 count reading =>
      obtain rfl : i = close := ends
      obtain rfl : count = 0 := by omega
      cases left with
      | outside i => exact iff_of_false Bool.false_ne_true shape.template_not_runsOver_close
      | inComment kept low high closes open' => omega
  | case2 count rest ih =>
      simp only [List.length_cons] at ends
      obtain ⟨others, left', same⟩ := Left.opens shape (by omega) stand read passes
      cases left with
      | outside i =>
          rw [← same]
          refine ih left' stand.2.2 (by omega) read (by omega) (passes.two fun isKept => ?_)
          simpa using isKept
  | case3 count kept rest ih =>
      simp only [List.length_cons] at ends
      rw [← left.closes shape (standAt_two_iff.2 ⟨stand.1, stand.2.1⟩) passes]
      exact ih (.outside (i + 2)) stand.2.2 (by omega) read (by omega)
        (passes.two fun no => Reading.noConfusion no)
  | case4 count reading c rest noOpen noClose ih =>
      simp only [List.length_cons] at ends
      obtain ⟨read', others, left', step⟩ := left.next shape stand (by omega) noOpen noClose read
      have notKept : reading ≠ .inComment true := fun isKept =>
        Nat.succ_ne_zero count (passes.free isKept)
      rw [(step.front notKept).skip_succ (step.tiles notKept)]
      exact ih left' stand.2 (by omega) read' (by omega) passes.next
  | case5 reading c rest noOpen noClose opens none ih =>
      simp only [List.length_cons] at ends
      obtain ⟨read', others, left', step⟩ := left.next shape stand (by omega) noOpen noClose read
      obtain ⟨found, _⟩ := tokenAt_template_behind tail size (opens.1 ▸ stand.1) stand.2 (by omega)
      rw [none, Option.map_none] at found
      have later := ih left' stand.2 (by omega) read' (by omega) (.none text reading _)
      exact later.trans (step.runsOver_iff fun _ => found)
  | case6 reading c rest noOpen noClose opens count length ih =>
      simp only [List.length_cons] at ends
      obtain ⟨read', others, left', step⟩ := left.next shape stand (by omega) noOpen noClose read
      obtain ⟨found, closing⟩ :=
        tokenAt_template_behind tail size (opens.1 ▸ stand.1) stand.2 (by omega)
      rw [length, Option.map_some] at found
      obtain ⟨last, rfl, closes⟩ := closing count length
      rw [skip_zero, (step.front opens.2).runsOver_of_found (step.tiles opens.2) found (by omega),
        Bool.or_eq_true, decide_eq_true_eq]
      by_cases beyond : rest.length < last + 1
      · have late : close + 2 ≤ i + 1 + last := shape.le_of_backtick closes (by omega)
        exact iff_of_true (Or.inl beyond) (Or.inl (by omega))
      · refine or_congr (iff_of_false beyond (by omega)) ?_
        exact ih left' stand.2 (by omega) read' (by omega)
          ⟨fun _ => closes, fun isKept => absurd isKept opens.2⟩
  | case7 reading c rest noOpen noClose other ih =>
      simp only [List.length_cons] at ends
      obtain ⟨read', others, left', step⟩ := left.next shape stand (by omega) noOpen noClose read
      have later := ih left' stand.2 (by omega) read' (by omega) (.none text reading _)
      refine later.trans (step.runsOver_iff fun notKept => ?_)
      refine JavaScript.tokenAt_template_of_other fun isQuote => ?_
      exact other ⟨Option.some.inj (stand.1.symm.trans isQuote), notKept⟩

/-- **A template literal runs on over the comment behind a string** exactly if that is read off the
string and what stands behind it. -/
theorem runsOver_commentPieces_iff {make : Array Char → Token} {b behind : List Char}
    (body : StandAt text b 1) (ends : 1 + b.length = close) (tail : StandAt text behind close)
    (size : close + behind.length = text.size) (read : endsInComment false b = false) :
    RunsOver JavaScript.template make text (commentPieces block line text 0) (close + 2) ↔
      templateRunsOn behind 0 .outside b = true := by
  have fits := shape.sign_size
  have noSign {c d : Char} (other : c ≠ '"') : ¬ StandAt text [c, d] 0 := fun stand =>
    other (Option.some.inj (stand.1.symm.trans shape.opens))
  have noQuote : text[0]? ≠ some backtick := fun present =>
    absurd (Option.some.inj (present.symm.trans shape.opens)) (by decide)
  rw [shape.templateRunsOn_iff tail size (.outside 1) body ends read (by omega)
    (.none text .outside 1), skip_zero]
  exact (shape.front_commentPieces block line (by omega) (noSign (by decide))
    (noSign (by decide))).runsOver_iff (tiles_commentPieces block line (by omega))
    (JavaScript.tokenAt_template_of_other noQuote)

end Scan

end StringThenComment

end Language

end Highlight
