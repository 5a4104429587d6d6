import Highlight.Proofs.Decoration.Failure
import Highlight.Proofs.Decoration.Leaves
import Highlight.Proofs.Document.Positions

/-!
# Decorating copies of fragments

Marks are put on copies of a block's fragments. A copy keeps its key, and with it its place in
the block, but the block's own fragment of that key can get another text. In a block whose
lines are joined a copy is decorated from where the block's fragment begins, for as many
characters as the copy has (`Options.exists_decoration_copy`).

As far as the block's fragment reaches, every mark that a copy gets is one for a token over this
fragment, even if the copy's text is another. Behind that come the tokens of the fragments that
follow. A copy that is longer than the block's fragment gets their marks as well
(`Session.copy_with_foreign_mark`), and a copy that is not gets none (`Session.decorate_copy`).
-/

namespace Highlight

set_option autoImplicit false

/-- A mark for a token that covers some position of a stretch. -/
def TokenMark (classPrefix : String) (leaves : List Leaf) (stretch : Span) (m : Mark) : Prop :=
  ∃ position, (stretch.start ≤ position ∧ position < stretch.stop) ∧
    ∃ label, (∃ leaf ∈ leaves, leaf.Covers position (some label)) ∧ m = .token classPrefix label

/-- The mark for a token over one position. -/
theorem tokenMark_single_iff {classPrefix : String} {leaves : List Leaf} {position : Nat}
    {m : Mark} :
    TokenMark classPrefix leaves ⟨position, position + 1⟩ m ↔
      ∃ label, (∃ leaf ∈ leaves, leaf.Covers position (some label)) ∧
        m = .token classPrefix label := by
  constructor
  · rintro ⟨other, ⟨low, high⟩, covered⟩
    obtain rfl : other = position := Nat.le_antisymm (Nat.le_of_lt_succ high) low
    exact covered
  · exact fun covered => ⟨position, ⟨Nat.le_refl _, Nat.lt_succ_self _⟩, covered⟩

/-- A longer stretch has all marks of a shorter one. -/
theorem TokenMark.mono {classPrefix : String} {leaves : List Leaf} {short long : Span} {m : Mark}
    (mark : TokenMark classPrefix leaves short m) (start : long.start ≤ short.start)
    (stop : short.stop ≤ long.stop) : TokenMark classPrefix leaves long m := by
  obtain ⟨position, ⟨low, high⟩, covered⟩ := mark
  exact ⟨position, ⟨Nat.le_trans start low, Nat.lt_of_lt_of_le high stop⟩, covered⟩

namespace Options

variable {options : Options} {tokenizer : Tokenizer} {b : Block} {f : Fragment}

/-- The leaves that the fragments of a block are decorated by if its lines are joined. There
are none if the block is not eligible or its grammar is not known. -/
def joinedLeaves (options : Options) (tokenizer : Tokenizer) (b : Block) : List Leaf :=
  if options.eligible b then
    match tokenizer b.text (options.grammar b) with
    | none => []
    | some tokens => (Walk.start tokens .joined).leaves
  else []

/-- A decorated fragment has its own marks and, on each character, the mark for the token at the
distance from a start that the character has in the fragment. -/
def MarksFrom (options : Options) (leaves : List Leaf) (start : Nat) (f : Fragment)
    (t : MarkedText) : Prop :=
  ∀ position < f.length, ∀ m, t.Marked position m ↔
    f.characters.Marked position m ∨
      TokenMark options.classPrefix leaves ⟨start + position, start + position + 1⟩ m

/-- **A copy is decorated from where the block's fragment of its key begins**, for as long as
the copy is. -/
theorem exists_decoration_copy (joined : options.mode = .joined)
    (partitions : ∀ tokens, tokenizer b.text (options.grammar b) = some tokens →
      Token.textAll tokens = b.text)
    {index : Nat} (found : b.indexOf? f.key = some index) :
    ∃ t, options.decoration tokenizer b f = .ok t ∧ t.text = f.text ∧
      options.MarksFrom (options.joinedLeaves tokenizer b) (b.offsetAt index - index) f t := by
  simp only [MarksFrom, tokenMark_single_iff]
  simp only [decoration, found, joinedLeaves]
  by_cases eligible : options.eligible b = true
  · have source : options.source f b = b.text := by rw [Options.source, joined]
    rw [if_pos eligible, if_pos eligible]
    cases isTokens : tokenizer b.text (options.grammar b) with
    | none =>
        refine ⟨f.characters, ?_, f.text_characters, fun position inside m => ?_⟩
        · simp only [Decorator.mark, basis, source, isTokens]
        · simp
    | some tokens =>
        have agree : options.mode.measure (Token.textAll tokens) =
            (options.basis tokenizer f b index).expected := by
          rw [partitions tokens isTokens, ← source, options.measure_source]
          rfl
        have bounds : (options.basis tokenizer f b index).bounds =
            .inBlock (b.offsetAt index) index f.length := by
          simp only [basis, Options.bounds, joined]
        rw [mark_eq (options.basis tokenizer f b index) (source ▸ isTokens), if_pos agree, bounds,
          joined]
        refine ⟨_, rfl, ?_, fun position inside m => ?_⟩
        · rw [MarkedText.text_markLeaves, f.text_characters]
        · have room := Nat.add_lt_add_left inside (b.offsetAt index - index)
          rw [MarkedText.marked_markLeaves, f.length_characters, and_iff_right inside]
          exact or_congr Iff.rfl (and_iff_right room)
  · rw [if_neg eligible, if_neg eligible]
    refine ⟨f.characters, rfl, f.text_characters, fun position inside m => ?_⟩
    simp

/-- A character of a decorated copy has a mark that the copy did not have and that is not for
a token over the block's own stretch. -/
def HasForeignMark (options : Options) (leaves : List Leaf) (own : Span) (f : Fragment)
    (t : MarkedText) : Prop :=
  ∃ position < f.length, ∃ m, t.Marked position m ∧ ¬ f.characters.Marked position m ∧
    ¬ TokenMark options.classPrefix leaves own m

/-- **Foreign marks are behind the block's own stretch.** -/
theorem MarksFrom.hasForeignMark_iff {leaves : List Leaf} {start length : Nat} {t : MarkedText}
    (marks : options.MarksFrom leaves start f t) :
    options.HasForeignMark leaves ⟨start, start + length⟩ f t ↔
      ∃ position, length ≤ position ∧ position < f.length ∧ ∃ m,
        TokenMark options.classPrefix leaves ⟨start + position, start + position + 1⟩ m ∧
          ¬ f.characters.Marked position m ∧
          ¬ TokenMark options.classPrefix leaves ⟨start, start + length⟩ m := by
  constructor
  · rintro ⟨position, inside, m, isMarked, gained, notOwn⟩
    have mark := ((marks position inside m).1 isMarked).resolve_left gained
    refine ⟨position, Nat.le_of_not_lt fun within => notOwn (mark.mono ?_ ?_), inside, m, mark,
      gained, notOwn⟩
    · exact Nat.le_add_right _ _
    · exact Nat.add_lt_add_left within _
  · rintro ⟨position, _, inside, m, mark, gained, notOwn⟩
    exact ⟨position, inside, m, (marks position inside m).2 (Or.inr mark), gained, notOwn⟩

end Options

namespace Session

/-- **What a copy gets.** Whatever a program has done before, a decorator of joined blocks
decorates every fragment whose key is in a block, whatever its text is. Each character gets the
mark of the token at its distance from the beginning of the block's own fragment. So foreign
marks are on characters further off than the block's fragment is long, if on any, and there are
none on a copy that is not longer. -/
theorem decorate_copy (tokenizer : Tokenizer) (options : Options) (actions : List Action)
    (joined : options.mode = .joined) {b : Block}
    (live : b ∈ ((start tokenizer options).after actions).pool.blocks)
    (partitions : ∀ tokens, tokenizer b.text (options.grammar b) = some tokens →
      Token.textAll tokens = b.text)
    {f g : Fragment} (among : g ∈ b.fragments) (sameKey : f.key = g.key) :
    ∃ t index, b.fragments[index]? = some g ∧
      (((start tokenizer options).after actions).decorator.decorate f b).1 = .ok t ∧
      t.text = f.text ∧
      let own : Span := .inBlock (b.offsetAt index) index g.length
      let leaves := options.joinedLeaves tokenizer b
      options.MarksFrom leaves own.start f t ∧
      (options.HasForeignMark leaves own f t ↔
        ∃ position, g.length ≤ position ∧ position < f.length ∧ ∃ m,
          TokenMark options.classPrefix leaves
              ⟨own.start + position, own.start + position + 1⟩ m ∧
            ¬ f.characters.Marked position m ∧ ¬ TokenMark options.classPrefix leaves own m) ∧
      (f.length ≤ g.length → ¬ options.HasForeignMark leaves own f t) := by
  have sound := (sound_start tokenizer options).after actions
  obtain ⟨index, at'⟩ := List.mem_iff_getElem?.1 among
  have found : b.indexOf? f.key = some index := by
    rw [sameKey, Block.indexOf?_of_getElem? (sound.pool.given b live).distinct at']
  obtain ⟨t, isOk, text, marks⟩ := Options.exists_decoration_copy joined partitions found
  refine ⟨t, index, at', ?_, text, marks, marks.hasForeignMark_iff, fun notLonger isForeign => ?_⟩
  · rw [(sound.decorator.decorate sound.pool live f).1, isOk]
  · obtain ⟨position, beyond, inside, _⟩ := marks.hasForeignMark_iff.1 isForeign
    exact absurd (Nat.lt_of_lt_of_le inside notLonger) (Nat.not_lt.2 beyond)

/-- A copy of a line that has become longer since gets the mark of the keyword that stands there
now. -/
theorem decorate_copy_of_shorter :
    let tokenizer : Tokenizer := fun text _ =>
      if text = "let\nvar" then
        some [.leaf "keyword" none "let", .literal "\n", .leaf "keyword" none "var"]
      else none
    let f : Fragment := ⟨⟨3⟩, ⟨"a", by decide⟩, []⟩
    let s := (start tokenizer .standard).after
      [.edit (.code "javascript" "a\nvar"), .edit (.setText 0 ⟨3⟩ "let")]
    ∃ b ∈ s.pool.blocks, b.text = "let\nvar" ∧ ∃ t, (s.decorator.decorate f b).1 = .ok t ∧
      t.Marked 0 ⟨"syntax-token", "token keyword"⟩ ∧
      ¬ Options.standard.HasForeignMark (Options.standard.joinedLeaves tokenizer b) ⟨0, 3⟩ f t := by
  intro tokenizer f s
  let g : Fragment := ⟨⟨3⟩, ⟨"let", by decide⟩, []⟩
  let b : Block := { (Block.code "javascript" "" .full).1 with
    fragments := [g, ⟨⟨4⟩, ⟨"var", by decide⟩, []⟩]
    revision := ⟨5⟩ }
  have live : b ∈ s.pool.blocks := by decide
  have among : g ∈ b.fragments := List.mem_cons_self
  have partitions : ∀ tokens, tokenizer b.text (Options.standard.grammar b) = some tokens →
      Token.textAll tokens = b.text := by
    rintro tokens ⟨rfl⟩
    decide
  obtain ⟨t, index, at', isOk, _, marks, _, noForeign⟩ :=
    decorate_copy tokenizer .standard _ rfl live partitions among (show f.key = g.key from rfl)
  have found : some index = some 0 :=
    (Block.indexOf?_of_getElem? (by decide) at').symm.trans (by decide)
  cases found
  have own : Span.inBlock (b.offsetAt 0) 0 g.length = ⟨0, 3⟩ := by decide
  rw [own] at marks noForeign
  refine ⟨b, live, by decide, t, isOk, (marks 0 (by decide) _).2 (Or.inr ?_), noForeign (by decide)⟩
  exact tokenMark_single_iff.2 ⟨⟨["keyword"]⟩, ⟨⟨⟨0, 3⟩, some ⟨["keyword"]⟩⟩, by decide +kernel,
    rfl, by decide, by decide⟩, rfl⟩

/-- **A copy that is longer than the block's fragment gets foreign marks.** The first line was
`abcd` when it was copied and is `a` now. The rest of the copy gets the mark of the keyword on
the second line. -/
theorem copy_with_foreign_mark :
    let tokenizer : Tokenizer := fun text _ =>
      if text = "a\nvar" then some [.literal "a\n", .leaf "keyword" none "var"] else none
    let f : Fragment := ⟨⟨3⟩, ⟨"abcd", by decide⟩, []⟩
    let g : Fragment := ⟨⟨3⟩, ⟨"a", by decide⟩, []⟩
    let s := (start tokenizer .standard).after
      [.edit (.code "javascript" "abcd\nvar"), .edit (.setText 0 ⟨3⟩ "a")]
    f ∈ (Block.code "javascript" "abcd\nvar" .full).1.fragments ∧
      (∀ text grammar tokens, tokenizer text grammar = some tokens →
        Token.textAll tokens = text) ∧
      Options.standard.mode = .joined ∧
      ∃ b ∈ s.pool.blocks, g ∈ b.fragments ∧ ∃ index, b.indexOf? f.key = some index ∧
        ∃ t, (s.decorator.decorate f b).1 = .ok t ∧
          Options.standard.HasForeignMark (Options.standard.joinedLeaves tokenizer b)
            (.inBlock (b.offsetAt index) index g.length) f t := by
  intro tokenizer f g s
  let b : Block := { (Block.code "javascript" "" .full).1 with
    fragments := [g, ⟨⟨4⟩, ⟨"var", by decide⟩, []⟩]
    revision := ⟨5⟩ }
  let keyword : Mark := ⟨"syntax-token", "token keyword"⟩
  let t : MarkedText := ⟨[⟨'a', ∅⟩, ⟨'b', (∅ : MarkSet).insert keyword⟩,
    ⟨'c', (∅ : MarkSet).insert keyword⟩, ⟨'d', (∅ : MarkSet).insert keyword⟩]⟩
  have leaves : Options.standard.joinedLeaves tokenizer b =
      [⟨⟨0, 1⟩, none⟩, ⟨⟨1, 4⟩, some ⟨["keyword"]⟩⟩] := by decide +kernel
  have own : Span.inBlock (b.offsetAt 0) 0 g.length = ⟨0, 1⟩ := by decide
  have unmarked : f.characters.get? 1 = some ⟨'b', ∅⟩ := by decide
  refine ⟨by decide, fun text grammar tokens isTokens => ?_, rfl, b, by decide,
    List.mem_cons_self, 0, by decide, t, by decide +kernel, 1, by decide, keyword,
    ⟨_, rfl, List.mem_cons_self⟩, ?_, ?_⟩
  · simp only [tokenizer] at isTokens
    split at isTokens
    · next isText =>
      cases isTokens
      rw [isText]
      decide
    · cases isTokens
  · rintro ⟨c, isChar, member⟩
    cases isChar.symm.trans unmarked
    exact absurd member List.not_mem_nil
  · rw [leaves, own]
    rintro ⟨position, ⟨_, first⟩, label, ⟨leaf, member, isLabel, from', _⟩, _⟩
    rcases List.mem_cons.1 member with rfl | member
    · cases isLabel
    · cases List.mem_singleton.1 member
      exact absurd first (Nat.not_lt.2 from')

end Session

end Highlight
