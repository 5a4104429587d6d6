import Highlight.Proofs.Grammar.Isolation
import Highlight.Proofs.Pattern.SearchInBytes

/-!
# Carving in place

A pattern can be carved out of a row of pieces in place. A loop goes along the row with the number
of a piece, and where something is found in this piece it is replaced, with the pieces behind it
that the match reaches, by a token and by what is left of them. So the row gets longer or shorter
while the loop goes on. The spans of the pieces are in bytes, and whatever is looked up is checked:
the number of a piece against the row, and a range of bytes against the text. If a check fails the
loop comes to nothing.

No check fails. A round leaves its piece behind or cuts a token out, and as no token is empty, the
piece that comes next begins further on. So the work left is the text that lies ahead, and what is
due is what carving makes of the pieces ahead (`Due`). In a greedy round the last piece that the
match reaches is looked for along the row. There is one, because the pieces ahead lie end to end up
to the end of the text (`Tiles.exists_reached`).

Both loops end, and come to what carving comes to (`carve?_inBytes`, `carveGreedy?_inBytes`).
-/

namespace Highlight

set_option autoImplicit false

/-- What stands behind the entries of a first row is the head of the second. -/
theorem getElem?_length_append {α : Type} (first second : List α) :
    (first ++ second)[first.length]? = second.head? := by
  rw [List.getElem?_append_right (Nat.le_refl _), Nat.sub_self, List.head?_eq_getElem?]

namespace Piece

variable {pattern : Pattern} {make : Array Char → Token} {make? : Array Char → Option Token}
  {text : Array Char} {pieces done after : List Piece}

/-! ## Pieces in bytes -/

/-- A piece with its span in bytes. -/
def inBytes (text : Array Char) : Piece → Piece
  | plain span => plain (span.inBytes text)
  | .token span made => .token (span.inBytes text) made

theorem span_inBytes (piece : Piece) : (piece.inBytes text).span = piece.span.inBytes text := by
  cases piece with
  | plain span => rfl
  | token span made => rfl

theorem map_inBytes_plainUnlessEmpty {start stop : Nat} (inside : stop ≤ text.size) :
    (plainUnlessEmpty ⟨start, stop⟩).map (inBytes text) =
      plainUnlessEmpty ⟨byteOffset text start, byteOffset text stop⟩ := by
  simp only [plainUnlessEmpty, byteOffset_lt_iff inside]
  split
  · rfl
  · rfl

/-! ## Replacing pieces -/

/-- The pieces up to the end of a token: what is left of the text before it, and the token. -/
def upTo (start : Nat) (found : Span) (made : Token) : List Piece :=
  plainUnlessEmpty ⟨start, found.start⟩ ++ [token found made]

/-- Replaces the pieces with some numbers by a token and by what is left of their text before and
behind it, up to an offset. Also tells how many of the new pieces end with the token. -/
def splice? (make? : Array Char → Option Token) (text : Array Char) (pieces : List Piece)
    (numbers found : Span) (stop : Nat) : Option (List Piece × Nat) := do
  let first ← pieces[numbers.start]?
  let matched ← sliceBytes? text found
  let made ← make? matched
  let new := upTo first.span.start found made
  if numbers.start ≤ numbers.stop ∧ numbers.stop ≤ pieces.length then
    some (pieces.take numbers.start ++ (new ++ plainUnlessEmpty ⟨found.stop, stop⟩) ++
      pieces.drop numbers.stop, new.length)
  else none

variable {replaced : List Piece} {first : Piece} {found : Span} {made : Token}

theorem upTo_append (start : Nat) :
    upTo start found made ++ pieces =
      plainUnlessEmpty ⟨start, found.start⟩ ++ token found made :: pieces := by
  rw [upTo, List.append_assoc, List.singleton_append]

theorem map_inBytes_upTo {start : Nat} (inside : found.start ≤ text.size) :
    (upTo start found made).map (inBytes text) =
      upTo (byteOffset text start) (found.inBytes text) made := by
  rw [upTo, List.map_append, map_inBytes_plainUnlessEmpty inside]
  rfl

theorem splice?_of_slice (done : List Piece) (stop : Nat) {matched : Array Char}
    (starts : (replaced ++ after).head? = some first)
    (cut : sliceBytes? text found = some matched) (makes : make? matched = some made) :
    splice? make? text (done ++ (replaced ++ after)) ⟨done.length, done.length + replaced.length⟩
        found stop =
      some (done ++ upTo first.span.start found made ++
          (plainUnlessEmpty ⟨found.stop, stop⟩ ++ after),
        (upTo first.span.start found made).length) := by
  have here : (done ++ (replaced ++ after))[done.length]? = some first := by
    rw [getElem?_length_append, starts]
  have numbered : done.length ≤ done.length + replaced.length ∧
      done.length + replaced.length ≤ (done ++ (replaced ++ after)).length := by
    simp only [List.length_append]
    omega
  have back : (done ++ (replaced ++ after)).drop (done.length + replaced.length) = after := by
    rw [← List.append_assoc, List.drop_left' List.length_append]
  simp only [splice?, Option.bind_eq_bind, here, Option.bind_some, cut, makes, if_pos numbered,
    List.take_left, back, List.append_assoc]

/-- **A token can be put in the place of the pieces that it reaches.** -/
theorem splice?_inBytes {stop : Nat} (starts : (replaced ++ after).head? = some first)
    (ordered : found.start ≤ found.stop) (within : found.stop ≤ stop) (inside : stop ≤ text.size)
    (makes : make? (found.slice text) = some made) :
    splice? make? text ((done ++ (replaced ++ after)).map (inBytes text))
        ⟨done.length, done.length + replaced.length⟩ (found.inBytes text) (byteOffset text stop) =
      some ((done ++ upTo first.span.start found made ++
        (plainUnlessEmpty ⟨found.stop, stop⟩ ++ after)).map (inBytes text),
          (upTo first.span.start found made).length) := by
  have ends : found.stop ≤ text.size := Nat.le_trans within inside
  have startsBytes : (replaced.map (inBytes text) ++ after.map (inBytes text)).head? =
      some (first.inBytes text) := by
    rw [← List.map_append, List.head?_map, starts, Option.map_some]
  have spliced := splice?_of_slice (done.map (inBytes text)) (byteOffset text stop) startsBytes
    (sliceBytes?_inBytes ordered ends) makes
  have before : upTo (first.inBytes text).span.start (found.inBytes text) made =
      (upTo first.span.start found made).map (inBytes text) := by
    rw [map_inBytes_upTo (Nat.le_trans ordered ends), span_inBytes]
    rfl
  have behind : plainUnlessEmpty ⟨(found.inBytes text).stop, byteOffset text stop⟩ =
      (plainUnlessEmpty ⟨found.stop, stop⟩).map (inBytes text) := by
    rw [map_inBytes_plainUnlessEmpty inside]
    rfl
  rw [before, behind] at spliced
  simp only [List.length_map] at spliced
  simp only [List.map_append, spliced]

/-! ## Going along the row -/

/-- One round of a loop along a row of pieces, at the number of a piece: tokens are passed, and
plain text is visited. -/
def pieceRound (visit : List Piece → Nat → Span → Option ((List Piece × Nat) ⊕ List Piece)) :
    List Piece × Nat → Option ((List Piece × Nat) ⊕ List Piece)
  | (pieces, number) =>
      if number < pieces.length then do
        match ← pieces[number]? with
        | .token _ _ => some (.inl (pieces, number + 1))
        | plain range => visit pieces number range
      else some (.inr pieces)

/-- Puts a token in the place of the pieces with some numbers, and goes on behind it. -/
def cutOut? (make? : Array Char → Option Token) (text : Array Char) (pieces : List Piece)
    (numbers found : Span) (stop : Nat) : Option ((List Piece × Nat) ⊕ List Piece) :=
  (splice? make? text pieces numbers found stop).map fun new => .inl (new.1, numbers.start + new.2)

/-- What is due where some pieces are done: the others, carved. The work left is the text that
these lie in. -/
def Due (carve : List Piece → List Piece) (text : Array Char) (state : List Piece × Nat)
    (work : Nat) (result : List Piece) : Prop :=
  ∃ done ahead place, state = ((done ++ ahead).map (inBytes text), done.length) ∧
    Tiles (fun _ _ => True) place ahead text.size ∧ work = text.size - place ∧
    result = (done ++ carve ahead).map (inBytes text)

section

variable {carve : List Piece → List Piece} {ahead : List Piece} {place later : Nat}

/-- Passing some pieces is an advance if what lies ahead begins further on. -/
theorem advances_of_append (passed : List Piece) (further : place < later)
    (tiles : Tiles (fun _ _ => True) later ahead text.size) :
    Advances (Due carve text) (text.size - place)
      ((done ++ (passed ++ carve ahead)).map (inBytes text))
      (some (.inl ((done ++ passed ++ ahead).map (inBytes text),
        done.length + passed.length))) := by
  have inside := tiles.le
  refine Or.inr ⟨_, text.size - later, rfl, ?_, by omega⟩
  refine ⟨done ++ passed, ahead, later, ?_, tiles, rfl, ?_⟩
  · rw [List.length_append]
  · rw [List.append_assoc]

theorem advances_of_cons (piece : Piece) (proper : place < piece.span.stop)
    (tiles : Tiles (fun _ _ => True) piece.span.stop ahead text.size) :
    Advances (Due carve text) (text.size - place)
      ((done ++ piece :: carve ahead).map (inBytes text))
      (some (.inl ((done ++ piece :: ahead).map (inBytes text), done.length + 1))) := by
  rw [List.append_cons done piece ahead]
  exact advances_of_append [piece] proper tiles

/-- Cutting a token out of plain text is an advance. What lies ahead then begins where the token
ends. -/
theorem advances_cutOut? {stop : Nat} (starts : (replaced ++ after).head? = some first)
    (low : first.span.start ≤ found.start) (holds : found.start < found.stop)
    (high : found.stop ≤ stop) (later : Tiles (fun _ _ => True) stop after text.size)
    (makes : make? (found.slice text) = some made) :
    Advances (Due carve text) (text.size - first.span.start)
      ((done ++ (upTo first.span.start found made ++
        carve (plainUnlessEmpty ⟨found.stop, stop⟩ ++ after))).map (inBytes text))
      (cutOut? make? text ((done ++ (replaced ++ after)).map (inBytes text))
        ⟨done.length, done.length + replaced.length⟩ (found.inBytes text)
        (byteOffset text stop)) := by
  have further : first.span.start < found.stop := Nat.lt_of_le_of_lt low holds
  have left : Tiles (fun _ _ => True) found.stop (plainUnlessEmpty ⟨found.stop, stop⟩ ++ after)
      text.size := (tiles_plainUnlessEmpty high).append later
  rw [cutOut?, splice?_inBytes starts (Nat.le_of_lt holds) high later.le makes, Option.map_some]
  exact advances_of_append _ further left

/-- Every round advances if every visit does. -/
theorem advances_pieceRound
    {visit : List Piece → Nat → Span → Option ((List Piece × Nat) ⊕ List Piece)}
    (nil : carve [] = [])
    (passes : ∀ span t rest, carve (token span t :: rest) = token span t :: carve rest)
    (visited : ∀ done span rest,
      Tiles (fun _ _ => True) span.start (plain span :: rest) text.size →
      Advances (Due carve text) (text.size - span.start)
        ((done ++ carve (plain span :: rest)).map (inBytes text))
        (visit ((done ++ plain span :: rest).map (inBytes text)) done.length (span.inBytes text)))
    (state : List Piece × Nat) (work : Nat) (result : List Piece)
    (known : Due carve text state work result) :
    Advances (Due carve text) work result (pieceRound visit state) := by
  obtain ⟨done, ahead, place, rfl, tiles, rfl, rfl⟩ := known
  cases ahead with
  | nil =>
      have all : ¬ done.length < ((done ++ []).map (inBytes text)).length := by
        rw [List.length_map, List.append_nil]
        exact Nat.lt_irrefl _
      rw [pieceRound, if_neg all, nil]
      exact Or.inl rfl
  | cons piece rest =>
      have more : done.length < ((done ++ piece :: rest).map (inBytes text)).length := by
        rw [List.length_map, List.length_append, List.length_cons]
        omega
      have here : ((done ++ piece :: rest).map (inBytes text))[done.length]? =
          some (piece.inBytes text) := by
        rw [List.getElem?_map, getElem?_length_append]
        rfl
      obtain ⟨rfl, proper, later⟩ := tiles.uncons
      rw [pieceRound, if_pos more, here]
      cases piece with
      | token span t =>
          rw [passes]
          exact advances_of_cons (token span t) proper later
      | plain span => exact visited done span rest tiles

end

/-! ## In isolation -/

/-- Visits a piece of plain text as a text of its own. -/
def visitAlone (pattern : Pattern) (make? : Array Char → Option Token) (text : Array Char)
    (pieces : List Piece) (number : Nat) (range : Span) :
    Option ((List Piece × Nat) ⊕ List Piece) := do
  let part ← sliceBytes? text range
  match ← pattern.searchBytes? part 0 with
  | none => some (.inl (pieces, number + 1))
  | some found =>
      cutOut? make? text pieces ⟨number, number + 1⟩ (found.shift range.start) range.stop

/-- Carves the pieces of plain text one by one. -/
def carve? (pattern : Pattern) (make? : Array Char → Option Token) (text : Array Char)
    (pieces : List Piece) : Option (List Piece) :=
  loop? (pieceRound (visitAlone pattern make? text)) (text.size + 1) (pieces, 0)

theorem advances_visitAlone (pattern : Pattern)
    (makes : ∀ matched, make? matched = some (make matched))
    (done : List Piece) (span : Span) (rest : List Piece)
    (tiles : Tiles (fun _ _ => True) span.start (plain span :: rest) text.size) :
    Advances (Due (carve pattern make text) text) (text.size - span.start)
      ((done ++ carve pattern make text (plain span :: rest)).map (inBytes text))
      (visitAlone pattern make? text ((done ++ plain span :: rest).map (inBytes text)) done.length
        (span.inBytes text)) := by
  obtain ⟨-, proper, later⟩ :
      _ ∧ span.start < span.stop ∧ Tiles (fun _ _ => True) span.stop rest text.size := tiles.uncons
  have whole : [plain span] = plainUnlessEmpty span := (if_pos proper).symm
  have cut : sliceBytes? text (span.inBytes text) = some (span.slice text) :=
    sliceBytes?_inBytes (Nat.le_of_lt proper) later.le
  have search : pattern.searchBytes? (span.slice text) 0 =
      some ((pattern.find (span.slice text) 0).map (Span.inBytes (span.slice text))) :=
    Pattern.searchBytes?_byteOffset (Nat.zero_le _)
  have split : carve pattern make text (plain span :: rest) =
      carve pattern make text (plainUnlessEmpty span) ++ carve pattern make text rest := by
    rw [← whole, ← carve_append]
    rfl
  simp only [visitAlone, Option.bind_eq_bind, cut, Option.bind_some, search, split]
  cases isFound : pattern.find (span.slice text) 0 with
  | none =>
      rw [carve_of_find_none isFound, ← whole]
      exact advances_of_cons (plain span) proper later
  | some found =>
      obtain ⟨-, holds, within⟩ := Pattern.find_bounds isFound
      rw [Span.slice, Array.size_extract, Nat.min_eq_left later.le] at within
      have ends : span.start + found.stop ≤ span.stop := by omega
      have moved : (found.inBytes (span.slice text)).shift (span.inBytes text).start =
          (found.shift span.start).inBytes text := Span.inBytes_shift (Nat.le_of_lt holds) ends
      have low : span.start ≤ (found.shift span.start).start := Nat.le_add_right _ _
      have proper' : (found.shift span.start).start < (found.shift span.start).stop :=
        Nat.add_lt_add_left holds _
      have carved : carve pattern make text (plainUnlessEmpty span) =
          upTo span.start (found.shift span.start) (make ((found.shift span.start).slice text)) ++
            carve pattern make text (plainUnlessEmpty ⟨span.start + found.stop, span.stop⟩) := by
        rw [upTo_append]
        exact carve_of_find isFound
      rw [carved, List.append_assoc, ← carve_append]
      simp only [Option.map_some, moved]
      have starts : ([plain span] ++ rest).head? = some (plain span) := rfl
      exact advances_cutOut? starts low proper' ends later (makes _)

/-- **Carving the pieces one by one ends**, without a check that fails. -/
theorem carve?_inBytes (makes : ∀ matched, make? matched = some (make matched))
    (tiles : Tiles (fun _ _ => True) 0 pieces text.size) :
    carve? pattern make? text (pieces.map (inBytes text)) =
      some ((carve pattern make text pieces).map (inBytes text)) := by
  have passes (span : Span) (t : Token) (rest : List Piece) :
      carve pattern make text (token span t :: rest) =
        token span t :: carve pattern make text rest := carve_token_cons
  have step := advances_pieceRound rfl passes (advances_visitAlone pattern makes)
  exact loop?_eq_some step ⟨[], pieces, 0, rfl, tiles, rfl, rfl⟩ (Nat.lt_succ_self _)

/-! ## Greedily -/

/-- One round of the search for the first piece, from some number on, that does not end before an
offset. -/
def reachedRound (pieces : List Piece) (stop number : Nat) : Option (Nat ⊕ Nat) := do
  let piece ← pieces[number]?
  if piece.span.stop < stop then some (.inl (number + 1)) else some (.inr number)

/-- The number of the first piece, from some number on, that does not end before an offset. -/
def reached? (pieces : List Piece) (stop number : Nat) : Option Nat :=
  loop? (reachedRound pieces stop) pieces.length number

/-- **Pieces that lie end to end reach every place between their ends**: there is a first one that
does not end before the place, and behind the place its rest and the pieces after it are left. -/
theorem Tiles.exists_reached {start place stop : Nat} {made : Span → Token → Prop}
    (tiles : Tiles made start pieces stop) (low : start < place) (high : place ≤ stop) :
    ∃ skipped last after, pieces = skipped ++ last :: after ∧
      (∀ piece ∈ skipped, piece.span.stop < place) ∧ place ≤ last.span.stop ∧
      Tiles made last.span.stop after stop ∧
      Piece.behind place pieces = plainUnlessEmpty ⟨place, last.span.stop⟩ ++ after := by
  induction tiles with
  | nil end' => exact absurd high (Nat.not_le.2 low)
  | @cons start stop piece rest begins proper isMade later ih =>
      by_cases before : piece.span.stop < place
      · obtain ⟨skipped, last, after, rfl, short, reaches, left, gone⟩ := ih before high
        refine ⟨piece :: skipped, last, after, rfl, ?_, reaches, left, ?_⟩
        · exact List.forall_mem_cons.2 ⟨before, short⟩
        · rw [Piece.behind, if_pos before, gone]
      · refine ⟨[], piece, rest, rfl, ?_, Nat.not_lt.1 before, later, ?_⟩
        · exact fun _ member => absurd member List.not_mem_nil
        · rw [Piece.behind, if_neg before]

/-- What is due at the number of a piece: the number of the first piece behind those that are too
short. -/
def ReachedDue (pieces : List Piece) (stop number work result : Nat) : Prop :=
  ∃ done skipped last after, pieces = done ++ (skipped ++ last :: after) ∧
    number = done.length ∧ work = skipped.length ∧ (∀ piece ∈ skipped, piece.span.stop < stop) ∧
    stop ≤ last.span.stop ∧ result = done.length + skipped.length

theorem advances_reachedRound {stop : Nat} (number work result : Nat)
    (known : ReachedDue pieces stop number work result) :
    Advances (ReachedDue pieces stop) work result (reachedRound pieces stop number) := by
  obtain ⟨done, skipped, last, after, rfl, rfl, rfl, short, reaches, rfl⟩ := known
  cases skipped with
  | nil =>
      have here : (done ++ ([] ++ last :: after))[done.length]? = some last :=
        getElem?_length_append _ _
      simp only [reachedRound, here, Option.bind_eq_bind, Option.bind_some,
        if_neg (Nat.not_lt.2 reaches)]
      exact Or.inl rfl
  | cons piece skipped =>
      have here : (done ++ (piece :: skipped ++ last :: after))[done.length]? = some piece :=
        getElem?_length_append _ _
      obtain ⟨tooShort, others⟩ := List.forall_mem_cons.1 short
      simp only [reachedRound, here, Option.bind_eq_bind, Option.bind_some, if_pos tooShort]
      refine Or.inr ⟨_, skipped.length, rfl, ?_, Nat.lt_succ_self _⟩
      refine ⟨done ++ [piece], skipped, last, after, ?_, ?_, rfl, others, reaches, ?_⟩
      · rw [List.append_assoc, List.cons_append, List.singleton_append]
      · rw [List.length_append, List.length_singleton]
      · rw [List.length_append, List.length_singleton, List.length_cons]
        omega

/-- **The search for the last piece of a match stops at a piece**, if one reaches its end. -/
theorem reached?_inBytes (done after : List Piece) {skipped : List Piece} {last : Piece}
    {place : Nat} (inside : place ≤ text.size) (short : ∀ piece ∈ skipped, piece.span.stop < place)
    (reaches : place ≤ last.span.stop) :
    reached? ((done ++ (skipped ++ last :: after)).map (inBytes text)) (byteOffset text place)
      done.length = some (done.length + skipped.length) := by
  have shortBytes : ∀ piece ∈ skipped.map (inBytes text),
      piece.span.stop < byteOffset text place := by
    rw [List.forall_mem_map]
    intro piece member
    rw [span_inBytes]
    exact byteOffset_lt (short piece member) inside
  have reachesBytes : byteOffset text place ≤ (last.inBytes text).span.stop := by
    rw [span_inBytes]
    exact byteOffset_le reaches
  have enough : (skipped.map (inBytes text)).length <
      ((done ++ (skipped ++ last :: after)).map (inBytes text)).length := by
    simp only [List.length_map, List.length_append, List.length_cons]
    omega
  refine loop?_eq_some advances_reachedRound ⟨done.map (inBytes text), skipped.map (inBytes text),
    last.inBytes text, after.map (inBytes text), ?_, ?_, rfl, shortBytes, reachesBytes, ?_⟩ enough
  · simp only [List.map_append, List.map_cons]
  · rw [List.length_map]
  · rw [List.length_map, List.length_map]

/-- Without such a piece the search would leave the row. -/
example : reached? [.plain ⟨0, 2⟩, .plain ⟨2, 5⟩] 6 0 = none := by
  decide

/-- Puts a token in the place of the pieces that it reaches, from some number on. -/
def cutReached? (make? : Array Char → Option Token) (text : Array Char) (pieces : List Piece)
    (number : Nat) (found : Span) : Option ((List Piece × Nat) ⊕ List Piece) := do
  let last ← reached? pieces found.stop number
  let reached ← pieces[last]?
  cutOut? make? text pieces ⟨number, last + 1⟩ found reached.span.stop

/-- Cutting a token out of all the pieces that it reaches is an advance. What lies ahead then are
the pieces behind the token. -/
theorem advances_cutReached? {carve : List Piece → List Piece} {rest : List Piece}
    (tiles : Tiles (fun _ _ => True) first.span.start (first :: rest) text.size)
    (low : first.span.start ≤ found.start) (holds : found.start < found.stop)
    (within : found.stop ≤ text.size) (makes : make? (found.slice text) = some made) :
    Advances (Due carve text) (text.size - first.span.start)
      ((done ++ (upTo first.span.start found made ++
        carve (behind found.stop (first :: rest)))).map (inBytes text))
      (cutReached? make? text ((done ++ first :: rest).map (inBytes text)) done.length
        (found.inBytes text)) := by
  obtain ⟨skipped, last, after, row, short, reaches, left, gone⟩ :=
    tiles.exists_reached (Nat.lt_of_le_of_lt low holds) within
  have parted : first :: rest = skipped ++ [last] ++ after := by
    rw [row, List.append_assoc, List.singleton_append]
  have starts : (skipped ++ [last] ++ after).head? = some first := by
    rw [← parted, List.head?_cons]
  have number := reached?_inBytes done after within short reaches
  have there : ((done ++ (skipped ++ last :: after)).map (inBytes text))[
      done.length + skipped.length]? = some (last.inBytes text) := by
    rw [List.getElem?_map, ← List.append_assoc, ← List.length_append, getElem?_length_append]
    rfl
  have behindLast : done.length + skipped.length + 1 =
      done.length + (skipped ++ [last]).length := by
    rw [List.length_append, List.length_singleton, Nat.add_assoc]
  have stops : (found.inBytes text).stop = byteOffset text found.stop := rfl
  rw [← row] at number there
  simp only [cutReached?, gone, stops, number, Option.bind_eq_bind, Option.bind_some, there,
    span_inBytes]
  rw [parted, behindLast]
  exact advances_cutOut? starts low holds reaches left makes

/-- Visits a piece of plain text by a search of the whole text from its start on. -/
def visitGreedily (pattern : Pattern) (make? : Array Char → Option Token) (text : Array Char)
    (pieces : List Piece) (number : Nat) (range : Span) :
    Option ((List Piece × Nat) ⊕ List Piece) := do
  match ← pattern.searchBytes? text range.start with
  | none => some (.inr pieces)
  | some found =>
      if range.stop ≤ found.start then some (.inl (pieces, number + 1))
      else cutReached? make? text pieces number found

/-- Carves tokens that begin in pieces of plain text. -/
def carveGreedy? (pattern : Pattern) (make? : Array Char → Option Token) (text : Array Char)
    (pieces : List Piece) : Option (List Piece) :=
  loop? (pieceRound (visitGreedily pattern make? text)) (text.size + 1) (pieces, 0)

theorem advances_visitGreedily (pattern : Pattern)
    (makes : ∀ matched, make? matched = some (make matched))
    (done : List Piece) (span : Span) (rest : List Piece)
    (tiles : Tiles (fun _ _ => True) span.start (plain span :: rest) text.size) :
    Advances (Due (carveGreedy pattern make text) text) (text.size - span.start)
      ((done ++ carveGreedy pattern make text (plain span :: rest)).map (inBytes text))
      (visitGreedily pattern make? text ((done ++ plain span :: rest).map (inBytes text))
        done.length (span.inBytes text)) := by
  obtain ⟨-, proper, later⟩ :
      _ ∧ span.start < span.stop ∧ Tiles (fun _ _ => True) span.stop rest text.size := tiles.uncons
  have inside : span.start ≤ text.size := tiles.le
  have search : pattern.searchBytes? text (span.inBytes text).start =
      some ((pattern.find text span.start).map (Span.inBytes text)) :=
    Pattern.searchBytes?_byteOffset inside
  rw [carveGreedy]
  simp only [visitGreedily, Option.bind_eq_bind, Option.bind_some, search]
  split
  · next nothing =>
    rw [nothing]
    exact Or.inl rfl
  · next found isFound =>
    obtain ⟨low, holds, within⟩ := Pattern.find_bounds isFound
    have beyondBytes : (span.inBytes text).stop ≤ (found.inBytes text).start ↔
        span.stop ≤ found.start := byteOffset_le_iff later.le
    simp only [isFound, Option.map_some, beyondBytes]
    split
    · exact advances_of_cons (plain span) proper later
    · rw [← upTo_append]
      exact advances_cutReached? tiles low holds within (makes _)

/-- **Carving greedily ends**, without a check that fails. -/
theorem carveGreedy?_inBytes (makes : ∀ matched, make? matched = some (make matched))
    (tiles : Tiles (fun _ _ => True) 0 pieces text.size) :
    carveGreedy? pattern make? text (pieces.map (inBytes text)) =
      some ((carveGreedy pattern make text pieces).map (inBytes text)) := by
  have nil : carveGreedy pattern make text [] = [] := by rw [carveGreedy]
  have passes (span : Span) (t : Token) (rest : List Piece) :
      carveGreedy pattern make text (token span t :: rest) =
        token span t :: carveGreedy pattern make text rest := by
    rw [carveGreedy]
  have step := advances_pieceRound nil passes (advances_visitGreedily pattern makes)
  exact loop?_eq_some step ⟨[], pieces, 0, rfl, tiles, rfl, rfl⟩ (Nat.lt_succ_self _)

end Piece

end Highlight
