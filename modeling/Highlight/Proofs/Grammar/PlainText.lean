import Highlight.Proofs.Grammar.Extension
import Highlight.Proofs.Pattern.Preference

/-!
# The plain text that a greedy rule leaves

What a greedy rule does to a text in one piece is a scan of the text: at each place it either
goes one place on or makes a token and goes on behind it. Which places stay plain is told by
these two steps (`Piece.plainAt_row_succ`, `Piece.plainAt_row_token`).

A rule whose matches reach the end of the text makes one token at most, at the first place in
plain text where it matches (`Piece.Tiles.token_mem_carveGreedy_iff`). A rule that matches in no
place of the plain text changes nothing (`Piece.carveGreedy_eq_self`). A rule that matches the
whole text leaves nothing else (`Rule.applyAll_whole`, `Grammar.tokenize_whole`).
-/

namespace Highlight

set_option autoImplicit false

namespace Piece

variable {pattern : Pattern} {make : Array Char → Token} {text : Array Char} {pieces : List Piece}
  {made : Span → Token → Prop} {start stop place : Nat} {span : Span} {t : Token}

/-! ## Places of plain text -/

/-- A place of a text is in a piece of plain text. -/
def PlainAt (pieces : List Piece) (place : Nat) : Prop :=
  ∃ span, plain span ∈ pieces ∧ span.start ≤ place ∧ place < span.stop

theorem not_plainAt_nil : ¬ PlainAt [] place := fun ⟨_, member, _⟩ => absurd member List.not_mem_nil

theorem plainAt_append {first second : List Piece} :
    PlainAt (first ++ second) place ↔ PlainAt first place ∨ PlainAt second place := by
  simp only [PlainAt, List.mem_append, or_and_right, exists_or]

theorem plainAt_token_cons : PlainAt (token span t :: pieces) place ↔ PlainAt pieces place := by
  simp only [PlainAt, List.mem_cons, reduceCtorEq, false_or]

theorem plainAt_plain_cons :
    PlainAt (plain span :: pieces) place ↔
      (span.start ≤ place ∧ place < span.stop) ∨ PlainAt pieces place := by
  simp only [PlainAt, List.mem_cons, plain.injEq, or_and_right, exists_or, exists_eq_left]

theorem plainAt_plainUnlessEmpty :
    PlainAt (plainUnlessEmpty span) place ↔ span.start ≤ place ∧ place < span.stop := by
  rw [plainUnlessEmpty]
  split
  · rw [plainAt_plain_cons, or_iff_left not_plainAt_nil]
  · next empty =>
    refine iff_of_false not_plainAt_nil ?_
    omega

theorem Tiles.bounds_of_plainAt (tiles : Tiles made start pieces stop)
    (isPlain : PlainAt pieces place) : start ≤ place ∧ place < stop := by
  obtain ⟨span, member, low, high⟩ := isPlain
  have bounds := tiles.bounds member
  simp only [Piece.span] at bounds
  omega

/-- Two pieces that share a place are one. -/
theorem Tiles.eq_of_shared (tiles : Tiles made start pieces stop) {p q : Piece}
    (memberP : p ∈ pieces) (memberQ : q ∈ pieces) (inP : p.span.start ≤ place ∧ place < p.span.stop)
    (inQ : q.span.start ≤ place ∧ place < q.span.stop) : p = q := by
  induction tiles with
  | nil => exact absurd memberP List.not_mem_nil
  | cons begins proper isMade later ih =>
      rcases List.mem_cons.1 memberP with rfl | restP
      · rcases List.mem_cons.1 memberQ with rfl | restQ
        · rfl
        · have := later.bounds restQ
          omega
      · rcases List.mem_cons.1 memberQ with rfl | restQ
        · have := later.bounds restP
          omega
        · exact ih restP restQ

/-! ## A text in one piece -/

theorem carveGreedy_plain_of_none (nothing : pattern.find text span.start = none) :
    carveGreedy pattern make text (plain span :: pieces) = plain span :: pieces := by
  rw [carveGreedy]
  split
  · rfl
  · next found isFound => rw [nothing] at isFound; cases isFound

theorem carveGreedy_plain_of_some {found : Span}
    (isFound : pattern.find text span.start = some found) :
    carveGreedy pattern make text (plain span :: pieces) =
      if span.stop ≤ found.start then plain span :: carveGreedy pattern make text pieces
      else
        plainUnlessEmpty ⟨span.start, found.start⟩ ++
          token found (make (found.slice text)) ::
            carveGreedy pattern make text (behind found.stop (plain span :: pieces)) := by
  rw [carveGreedy]
  split
  · next nothing => rw [isFound] at nothing; cases nothing
  · next other isOther =>
    rw [isFound] at isOther
    cases isOther
    rfl

/-- The pieces that a greedy pattern carves out of the rest of a text. -/
def row (pattern : Pattern) (make : Array Char → Token) (text : Array Char) (place : Nat) :
    List Piece :=
  carveGreedy pattern make text (plainUnlessEmpty ⟨place, text.size⟩)

theorem row_of_find_none (nothing : pattern.find text place = none) :
    row pattern make text place = plainUnlessEmpty ⟨place, text.size⟩ := by
  rw [row, plainUnlessEmpty]
  split
  · exact carveGreedy_plain_of_none nothing
  · rw [carveGreedy]

theorem row_of_find {found : Span} (isFound : pattern.find text place = some found) :
    row pattern make text place =
      plainUnlessEmpty ⟨place, found.start⟩ ++
        token found (make (found.slice text)) :: row pattern make text found.stop := by
  have bounds := Pattern.find_bounds isFound
  have one : plainUnlessEmpty ⟨place, text.size⟩ = [plain ⟨place, text.size⟩] :=
    if_pos (show place < text.size by omega)
  have left : behind found.stop [plain ⟨place, text.size⟩] =
      plainUnlessEmpty ⟨found.stop, text.size⟩ := by
    simp only [behind, Piece.span, Nat.not_lt.2 bounds.2.2, if_false, List.append_nil]
  rw [row, one, carveGreedy_plain_of_some isFound,
    if_neg (show ¬ text.size ≤ found.start by omega), left, row]

/-- Pieces carved out of the rest of a text lie there. -/
theorem tiles_row (inside : place ≤ text.size) :
    Tiles (fun _ _ => True) place (row pattern make text place) text.size :=
  (tiles_plainUnlessEmpty inside).carveGreedy fun _ _ _ => trivial

/-- **Where nothing matches, the scan goes one place on**, which stays plain. -/
theorem plainAt_row_succ {other : Nat} (inside : place < text.size)
    (nothing : pattern.tokenAt text place = none) :
    PlainAt (row pattern make text place) other ↔
      other = place ∨ PlainAt (row pattern make text (place + 1)) other := by
  have same := Pattern.find_succ inside nothing
  cases found : pattern.find text (place + 1) with
  | none =>
      rw [row_of_find_none (same.trans found), row_of_find_none found, plainAt_plainUnlessEmpty,
        plainAt_plainUnlessEmpty]
      simp only
      omega
  | some s =>
      have bounds := Pattern.find_bounds found
      rw [row_of_find (same.trans found), row_of_find found, plainAt_append, plainAt_append,
        plainAt_plainUnlessEmpty, plainAt_plainUnlessEmpty, ← or_assoc]
      refine or_congr_left ?_
      simp only
      omega

/-- **Where something matches, the scan goes on behind it.** -/
theorem plainAt_row_token {other stop : Nat}
    (found : pattern.tokenAt text place = some ⟨place, stop⟩) :
    PlainAt (row pattern make text place) other ↔ PlainAt (row pattern make text stop) other := by
  rw [row_of_find (Pattern.find_of_tokenAt found), plainAt_append, plainAt_plainUnlessEmpty,
    plainAt_token_cons, or_iff_right]
  simp only
  omega

/-! ## Rules that match nowhere, and rules that match to the end -/

/-- **A pattern that matches nowhere in plain text carves nothing.** -/
theorem carveGreedy_eq_self
    (quiet : ∀ place, PlainAt pieces place → pattern.tokenAt text place = none) :
    carveGreedy pattern make text pieces = pieces := by
  fun_induction carveGreedy pattern make text pieces with
  | case1 => rfl
  | case2 span t rest ih =>
      rw [ih fun place isPlain => quiet place (plainAt_token_cons.2 isPlain)]
  | case3 span rest nothing => rfl
  | case4 span rest found isFound beyond ih =>
      rw [ih fun place isPlain => quiet place (plainAt_plain_cons.2 (Or.inr isPlain))]
  | case5 span rest found isFound here ih =>
      obtain ⟨first, low, at', _⟩ := Pattern.find_eq_some_iff.1 isFound
      have bounds := Pattern.tokenAt_bounds at'
      have none := quiet first (plainAt_plain_cons.2 (Or.inl ⟨low, by omega⟩))
      rw [at'] at none
      cases none

theorem carve_eq_self
    (quiet : ∀ span, plain span ∈ pieces → pattern.find (span.slice text) 0 = none) :
    carve pattern make text pieces = pieces := by
  induction pieces with
  | nil => rfl
  | cons piece rest ih =>
      have later := ih fun span member => quiet span (List.mem_cons_of_mem _ member)
      rw [carve, List.flatMap_cons, ← carve, later]
      cases piece with
      | plain span =>
          have alone : carveSpan pattern make text span = [plain span] := by
            rw [carveSpan]
            split
            · rfl
            · next found isFound =>
              rw [quiet span List.mem_cons_self] at isFound
              cases isFound
          simp only [alone, List.singleton_append]
      | token span t => rfl

/-- No pieces lead nowhere. -/
theorem Tiles.of_nil (tiles : Tiles made start [] stop) : start = stop := by
  cases tiles
  rfl

/-- No pieces lie between a place and itself. -/
theorem Tiles.eq_nil (tiles : Tiles made start pieces start) : pieces = [] := by
  cases tiles with
  | nil => rfl
  | cons begins proper isMade later =>
      have := later.le
      omega

/-- A place is the first one of the plain text where a pattern matches. -/
def FirstPlain (pattern : Pattern) (text : Array Char) (pieces : List Piece) (place : Nat) : Prop :=
  PlainAt pieces place ∧ ∀ i, i < place → pattern.tokenAt text i ≠ none → ¬ PlainAt pieces i

/-- **A pattern that matches to the end of the text makes its token at the first place of the
plain text where it matches.** -/
theorem Tiles.token_mem_carveGreedy_iff (tiles : Tiles made start pieces text.size)
    (toEnd : ∀ i s, pattern.tokenAt text i = some s → s = ⟨i, text.size⟩)
    (matches' : pattern.tokenAt text place ≠ none)
    (fresh : ∀ span t, token span t ∈ pieces → span.start ≠ place) :
    token ⟨place, text.size⟩ (make ((⟨place, text.size⟩ : Span).slice text)) ∈
        Piece.carveGreedy pattern make text pieces ↔ FirstPlain pattern text pieces place := by
  fun_induction Piece.carveGreedy pattern make text pieces generalizing start with
  | case1 => exact iff_of_false List.not_mem_nil fun first => not_plainAt_nil first.1
  | case2 first t rest ih =>
      have other : token ⟨place, text.size⟩ (make ((⟨place, text.size⟩ : Span).slice text)) ≠
          token first t := by
        rintro ⟨⟩
        exact fresh _ _ List.mem_cons_self rfl
      rw [List.mem_cons, or_iff_right other,
        ih tiles.uncons.2.2 fun span t member => fresh span t (List.mem_cons_of_mem _ member)]
      simp only [FirstPlain, plainAt_token_cons]
  | case3 first rest nothing =>
      have begins : first.start = start := tiles.uncons.1
      have before : place < start := by
        refine Nat.not_le.1 fun low => matches' ?_
        exact Pattern.find_eq_none_iff.1 nothing place (begins ▸ low)
      refine iff_of_false (fun member => ?_) fun plain => ?_
      · exact absurd (tiles.bounds member).1 (Nat.not_le.2 before)
      · exact absurd (tiles.bounds_of_plainAt plain.1).1 (Nat.not_le.2 before)
  | case4 first rest found isFound beyond ih =>
      obtain ⟨k, low, at', before⟩ := Pattern.find_eq_some_iff.1 isFound
      obtain rfl := toEnd k found at'
      have outside (i : Nat) (some : pattern.tokenAt text i ≠ none) :
          PlainAt (plain first :: rest) i ↔ PlainAt rest i := by
        rw [plainAt_plain_cons, or_iff_right]
        rintro ⟨after, inside⟩
        exact some (before i after (Nat.lt_of_lt_of_le inside beyond))
      rw [List.mem_cons, or_iff_right Piece.noConfusion,
        ih tiles.uncons.2.2 fun span t member => fresh span t (List.mem_cons_of_mem _ member)]
      refine and_congr (outside place matches').symm (forall_congr' fun i => ?_)
      exact forall_congr' fun _ => forall_congr' fun some => not_congr (outside i some).symm
  | case5 first rest found isFound here ih =>
      obtain ⟨k, low, at', before⟩ := Pattern.find_eq_some_iff.1 isFound
      obtain rfl := toEnd k found at'
      have bounds := Pattern.find_bounds isFound
      have begins : first.start = start := tiles.uncons.1
      have isPlain : PlainAt (plain first :: rest) k :=
        plainAt_plain_cons.2 (Or.inl ⟨low, Nat.not_le.1 here⟩)
      have nothing : Piece.behind text.size (plain first :: rest) = [] :=
        (tiles.behind tiles.le (Nat.le_refl _)).eq_nil
      have made : token ⟨place, text.size⟩ (make ((⟨place, text.size⟩ : Span).slice text)) ∈
          plainUnlessEmpty ⟨first.start, k⟩ ++
            [token ⟨k, text.size⟩ (make ((⟨k, text.size⟩ : Span).slice text))] ↔ place = k := by
        rw [List.mem_append, or_iff_right token_notMem_plainUnlessEmpty, List.mem_singleton]
        exact ⟨fun same => by cases same; rfl, fun same => same ▸ rfl⟩
      simp only [nothing, Piece.carveGreedy]
      rw [made]
      constructor
      · rintro rfl
        refine ⟨isPlain, fun i early some plain => some (before i ?_ early)⟩
        exact begins ▸ (tiles.bounds_of_plainAt plain).1
      · rintro ⟨plain, first'⟩
        have after := (tiles.bounds_of_plainAt plain).1
        rcases Nat.lt_trichotomy place k with early | same | late
        · exact absurd (before place (by omega) early) matches'
        · exact same
        · exact absurd isPlain (first' k late (at' ▸ Option.some_ne_none _))

/-- The first place of plain text with a match, where the scan goes on. -/
theorem firstPlain_row_succ {other : Pattern} {first : Nat} (inside : place < text.size)
    (nothing : pattern.tokenAt text place = none) (nothing' : other.tokenAt text place = none)
    (later : first ≠ place) :
    FirstPlain other text (row pattern make text place) first ↔
      FirstPlain other text (row pattern make text (place + 1)) first := by
  simp only [FirstPlain, plainAt_row_succ inside nothing, later, false_or, not_or]
  refine and_congr_right fun _ => forall_congr' fun i => forall_congr' fun _ =>
    forall_congr' fun some => and_iff_right ?_
  rintro rfl
  exact some nothing'

theorem firstPlain_row_token {other : Pattern} {first stop : Nat}
    (found : pattern.tokenAt text place = some ⟨place, stop⟩) :
    FirstPlain other text (row pattern make text place) first ↔
      FirstPlain other text (row pattern make text stop) first := by
  simp only [FirstPlain, plainAt_row_token found]

/-! ## A token at the beginning and one at the end -/

/-- A last token with one place of plain text in front of it. -/
theorem Tiles.eq_plain_token (tiles : Tiles made place pieces stop)
    (last : token ⟨place + 1, stop⟩ t ∈ pieces)
    (fresh : ∀ span t, token span t ∈ pieces → span.start ≠ place) :
    pieces = [plain ⟨place, place + 1⟩, token ⟨place + 1, stop⟩ t] := by
  cases tiles with
  | nil => exact absurd last List.not_mem_nil
  | @cons _ _ first rest begins proper isMade later =>
      cases first with
      | token span t' => exact absurd begins (fresh span t' List.mem_cons_self)
      | plain span =>
          obtain ⟨low, high⟩ := span
          simp only [Piece.span] at begins proper later
          have inRest := (List.mem_cons.1 last).resolve_left Piece.noConfusion
          have bounds := later.bounds inRest
          simp only [Piece.span] at bounds
          obtain rfl : high = place + 1 := by omega
          cases later with
          | nil => exact absurd inRest List.not_mem_nil
          | @cons _ _ second others begins' proper' isMade' later' =>
              rcases List.mem_cons.1 inRest with rfl | further
              · rw [begins, later'.eq_nil]
              · have : second.span.stop ≤ place + 1 := (later'.bounds further).1
                omega

/-- **A token that is found at the beginning comes first**, if no token is there yet, and the
rest is carved behind it. -/
theorem Tiles.carveGreedy_eq_cons (tiles : Tiles made 0 pieces text.size)
    (fresh : ∀ span t, token span t ∈ pieces → span.start ≠ 0)
    (found : pattern.tokenAt text 0 = some ⟨0, place⟩) :
    Piece.carveGreedy pattern make text pieces =
      token ⟨0, place⟩ (make ((⟨0, place⟩ : Span).slice text)) ::
        Piece.carveGreedy pattern make text (Piece.behind place pieces) := by
  have bounds := Pattern.tokenAt_bounds found
  cases pieces with
  | nil =>
      have empty := tiles.of_nil
      omega
  | cons first others =>
      have starts := tiles.uncons
      cases first with
      | token span t' => exact absurd starts.1 (fresh span t' List.mem_cons_self)
      | plain span =>
          obtain ⟨low, high⟩ := span
          obtain rfl : low = 0 := starts.1
          have reaches : ¬ high ≤ 0 := Nat.not_le.2 starts.2.1
          rw [carveGreedy_plain_of_some (Pattern.find_of_tokenAt found), if_neg reaches]
          rfl

/-- **A token that is found at the beginning takes all up to a last token**, but for one place
of plain text in front of that. -/
theorem Tiles.carveGreedy_eq (tiles : Tiles made 0 pieces text.size)
    (last : token ⟨place + 1, text.size⟩ t ∈ pieces)
    (fresh : ∀ span t, token span t ∈ pieces → span.start ≠ 0 ∧ span.start ≠ place)
    (found : pattern.tokenAt text 0 = some ⟨0, place⟩)
    (quiet : pattern.tokenAt text place = none) :
    Piece.carveGreedy pattern make text pieces =
      [token ⟨0, place⟩ (make ((⟨0, place⟩ : Span).slice text)), plain ⟨place, place + 1⟩,
        token ⟨place + 1, text.size⟩ t] := by
  have bounds := Pattern.tokenAt_bounds found
  have left : Piece.behind place pieces =
      [plain ⟨place, place + 1⟩, token ⟨place + 1, text.size⟩ t] :=
    (tiles.behind (Nat.zero_le _) bounds.2.2).eq_plain_token
      (tiles.mem_behind bounds.2.1 last (Nat.le_succ _))
      fun span t member => (fresh span t (token_mem_of_mem_behind member)).2
  rw [tiles.carveGreedy_eq_cons (fun span t member => (fresh span t member).1) found, left]
  refine congrArg _ (carveGreedy_eq_self fun i isPlain => ?_)
  rw [plainAt_plain_cons, plainAt_token_cons, or_iff_left not_plainAt_nil] at isPlain
  obtain rfl : i = place := by simp only at isPlain; omega
  exact quiet

/-- **A token that is found over the whole text takes all that was carved before**, if nothing of
that begins where the text does. -/
theorem Tiles.carveGreedy_whole (tiles : Tiles made 0 pieces text.size)
    (fresh : ∀ span t, token span t ∈ pieces → span.start ≠ 0)
    (found : pattern.tokenAt text 0 = some ⟨0, text.size⟩) :
    Piece.carveGreedy pattern make text pieces = [token ⟨0, text.size⟩ (make text)] := by
  have left : Piece.behind text.size pieces = [] :=
    (tiles.behind (Nat.zero_le _) (Nat.le_refl _)).eq_nil
  have whole : (⟨0, text.size⟩ : Span).slice text = text := Array.extract_size
  rw [tiles.carveGreedy_eq_cons fresh found, left, whole, Piece.carveGreedy]

end Piece

/-! ## The rules that made the tokens -/

/-- A token that was carved has the category of a rule that has found its span. -/
theorem Token.Carved.exists_rule {rules : List Rule} {text : Array Char} {span : Span} {t : Token}
    (carved : Token.Carved rules text span t) :
    ∃ rule ∈ rules, rule.Finds text span ∧ t.category? = some rule.category := by
  have madeBy := carved.madeBy
  cases t with
  | literal t => exact absurd rfl carved.category
  | leaf category secondName t =>
      rw [Token.MadeBy] at madeBy
      obtain ⟨_, rule, member, finds, same, _⟩ := madeBy
      exact ⟨rule, member, finds, congrArg some same.symm⟩
  | node category secondName children =>
      rw [Token.MadeBy] at madeBy
      obtain ⟨rule, member, finds, same, _⟩ := madeBy
      exact ⟨rule, member, finds, congrArg some same.symm⟩

namespace Rule

variable {rules : List Rule} {text : Array Char} {pieces : List Piece} {span : Span} {t : Token}

theorem category?_token (rule : Rule) (found : Array Char) :
    (rule.token found).category? = some rule.category := by
  obtain ⟨category, pattern, greedy, secondName, inside⟩ := rule
  cases inside with
  | none => rw [token, tokenInside, Token.category?]
  | some inner => rw [token, tokenInside, Token.category?]

/-- Rules of other categories make no token of a category. -/
theorem token_mem_of_mem_applyAll {all : List Rule} (among : ∀ rule ∈ rules, rule ∈ all)
    (tiles : Piece.Tiles (Token.Carved all text) 0 pieces text.size)
    (others : ∀ rule ∈ rules, t.category? ≠ some rule.category)
    (member : Piece.token span t ∈ applyAll rules text pieces) : Piece.token span t ∈ pieces := by
  induction rules generalizing pieces with
  | nil => rwa [applyAll] at member
  | cons rule rest ih =>
      have first : rule ∈ rule :: rest := List.mem_cons_self
      have step := tiles_applyAll [rule]
        (fun r same => List.mem_singleton.1 same ▸ among rule first) (fun r _ => r.makes) tiles
      rw [applyAll] at member
      have there := ih (fun r m => among r (List.mem_cons_of_mem _ m))
        (by simpa only [applyAll] using step) (fun r m => others r (List.mem_cons_of_mem _ m))
        member
      have notMade (found : Array Char) : t ≠ rule.token found := by
        rintro rfl
        exact others rule first (category?_token rule found)
      split at there
      · refine (Piece.mem_or_made_of_mem_carveGreedy there).resolve_right ?_
        rintro ⟨_, made⟩
        exact notMade _ made
      · refine (tiles.mem_or_made_of_mem_carve (Nat.le_refl _) there).resolve_right ?_
        rintro ⟨_, _, _, _, _, made⟩
        exact notMade _ made

/-- A literal among the tokens of a text is the text of a piece that has stayed plain. -/
theorem exists_plain_of_literal {s : String}
    (member : .literal s ∈ (applyAll rules text (Piece.start text)).map (Piece.toToken text)) :
    ∃ span, .plain span ∈ applyAll rules text (Piece.start text) ∧ s = span.text text := by
  have tiles : Piece.Tiles (Token.Carved rules text) 0 (applyAll rules text (Piece.start text))
      text.size :=
    tiles_applyAll rules (fun _ member => member) (fun r _ => r.makes) (Piece.tiles_start text)
  obtain ⟨piece, isPiece, isLiteral⟩ := List.mem_map.1 member
  cases piece with
  | plain span => exact ⟨span, isPiece, (Token.literal.inj isLiteral).symm⟩
  | token span t =>
      obtain rfl : t = .literal s := isLiteral
      exact absurd rfl (tiles.made_of_mem isPiece).category

/-- Rules that match nowhere in the plain text leave the pieces as they are. -/
theorem applyAll_eq_self (quiet : ∀ rule ∈ rules,
      if rule.greedy then
        ∀ place, Piece.PlainAt pieces place → rule.pattern.tokenAt text place = none
      else ∀ span, Piece.plain span ∈ pieces → rule.pattern.find (span.slice text) 0 = none) :
    applyAll rules text pieces = pieces := by
  induction rules with
  | nil => rw [applyAll]
  | cons rule rest ih =>
      have first := quiet rule List.mem_cons_self
      rw [applyAll]
      split
      · next greedy =>
        rw [if_pos greedy] at first
        rw [Piece.carveGreedy_eq_self first]
        exact ih fun r m => quiet r (List.mem_cons_of_mem _ m)
      · next alone =>
        rw [if_neg alone] at first
        rw [Piece.carve_eq_self first]
        exact ih fun r m => quiet r (List.mem_cons_of_mem _ m)

/-- **A greedy rule that matches the whole text makes one token of it**, whatever greedy rules
come before it and whatever rules come behind it, if none of those before it matches where the
text begins. -/
theorem applyAll_whole {before after : List Rule} {rule : Rule}
    (earlier : ∀ r ∈ before, r.greedy = true ∧ r.pattern.tokenAt text 0 = none)
    (greedy : rule.greedy = true) (found : rule.pattern.tokenAt text 0 = some ⟨0, text.size⟩) :
    applyAll (before ++ rule :: after) text (Piece.start text) =
      [.token ⟨0, text.size⟩ (rule.token text)] := by
  have tiles : Piece.Tiles (Token.Carved before text) 0 (applyAll before text (Piece.start text))
      text.size :=
    tiles_applyAll before (fun _ member => member) (fun r _ => r.makes) (Piece.tiles_start text)
  have fresh (span : Span) (t : Token)
      (member : Piece.token span t ∈ applyAll before text (Piece.start text)) :
      span.start ≠ 0 := by
    obtain ⟨r, among, finds, _⟩ := (tiles.made_of_mem member).exists_rule
    rw [Rule.Finds, if_pos (earlier r among).1] at finds
    obtain ⟨place, isFound⟩ := finds
    obtain ⟨first, _, at', _⟩ := Pattern.find_eq_some_iff.1 isFound
    intro starts
    obtain rfl : first = 0 := Nat.le_zero.1 (starts ▸ (Pattern.tokenAt_bounds at').1)
    rw [(earlier r among).2] at at'
    cases at'
  rw [applyAll_append, applyAll, if_pos greedy, tiles.carveGreedy_whole fresh found]
  refine applyAll_eq_self fun r _ => ?_
  split
  · exact fun place isPlain => absurd (Piece.plainAt_token_cons.1 isPlain) Piece.not_plainAt_nil
  · exact fun span isPlain => absurd (List.mem_singleton.1 isPlain) Piece.noConfusion

end Rule

/-- **A token of a category was made by a rule of this category**, of a span that the rule has
found. -/
theorem Grammar.exists_rule_of_category {g : Grammar} {text category : String} {t : Token}
    (member : t ∈ g.tokenize text) (isOf : t.category? = some category) :
    ∃ rule ∈ g.rules, rule.category = category ∧ ∃ span, rule.Finds (charactersOf text) span ∧
      t = rule.token (span.slice (charactersOf text)) := by
  let made (span : Span) (t : Token) : Prop :=
    ∃ rule ∈ g.rules, rule.Finds (charactersOf text) span ∧
      t = rule.token (span.slice (charactersOf text))
  have tiles : Piece.Tiles made 0 (g.pieces (charactersOf text)) (charactersOf text).size := by
    apply Rule.tiles_applyAll_of_makes g.rules _ (Piece.tiles_start _)
    intro rule among span finds
    exact ⟨rule, among, finds, rfl⟩
  obtain ⟨piece, isPiece, rfl⟩ := List.mem_map.1 member
  cases piece with
  | plain span => cases isOf
  | token span t =>
      obtain ⟨rule, among, finds, isMade⟩ := tiles.made_of_mem isPiece
      refine ⟨rule, among, ?_, span, finds, isMade⟩
      rw [Piece.toToken, isMade, Rule.category?_token] at isOf
      exact Option.some.inj isOf

/-- Where one rule alone makes the tokens of its category, each of them is what it makes of a span
that it has found. -/
theorem Grammar.exists_span_of_only {g : Grammar} {text : String} {rule : Rule} {t : Token}
    (only : g.rules.filter (fun other => other.category = rule.category) = [rule])
    (member : t ∈ g.tokenize text) (isOf : t.category? = some rule.category) :
    ∃ span, rule.Finds (charactersOf text) span ∧
      t = rule.token (span.slice (charactersOf text)) := by
  obtain ⟨maker, among, category, span, finds, isMade⟩ := exists_rule_of_category member isOf
  have same : maker ∈ g.rules.filter (fun other => other.category = rule.category) :=
    List.mem_filter.2 ⟨among, decide_eq_true category⟩
  rw [only] at same
  obtain rfl := List.mem_singleton.1 same
  exact ⟨span, finds, isMade⟩

/-- A text that one greedy rule matches as a whole becomes the token of this rule. -/
theorem Grammar.tokenize_whole {g : Grammar} {before after : List Rule} {rule : Rule}
    {text : String} (rules : g.rules = before ++ rule :: after)
    (earlier : ∀ r ∈ before,
      r.greedy = true ∧ r.pattern.tokenAt (charactersOf text) 0 = none)
    (greedy : rule.greedy = true)
    (found : rule.pattern.tokenAt (charactersOf text) 0 = some ⟨0, (charactersOf text).size⟩) :
    g.tokenize text = [rule.token (charactersOf text)] := by
  rw [tokenize, tokenizeCharacters, rules, Rule.applyAll_whole earlier greedy found,
    List.map_singleton, Piece.toToken]

end Highlight
