import Highlight.Proofs.Decoration.Failure
import Highlight.Proofs.Decoration.Leaves

/-!
# Decoration only adds

Decoration never changes a character and never takes a mark away. What it adds to a
character is at most one mark, and that stands for a lexical category
(`MarkedText.Extends`).

Nothing has to be known of the tokens for that, nor of how the fragment lies in its
block. The leaves of a walk lie end to end, whatever the tokens are, so that all
labelled leaves over one position have one label (`Walk.label_unique`), and a position
gets the mark of no other leaf (`extends_markLeaves`). The bounds only choose the leaf.
-/

namespace Highlight

set_option autoImplicit false

/-- The labelled leaves of a walk that cover one position have the same label. -/
theorem Walk.label_unique (tokens : List Token) (mode : Mode) {position : Nat}
    {first second : Label}
    (coversFirst : ∃ leaf ∈ (Walk.start tokens mode).leaves, leaf.Covers position (some first))
    (coversSecond : ∃ leaf ∈ (Walk.start tokens mode).leaves, leaf.Covers position (some second)) :
    first = second := by
  rw [Walk.leaves_start, exists_leaf_iff] at coversFirst coversSecond
  have same := coversFirst.2.symm.trans coversSecond.2
  exact Option.some.inj (Option.some.inj same)

namespace MarkedText

/-- What a marked text has become by additions: it has the same characters with all
their marks, and at most one more mark on each, which stands for a lexical
category. -/
structure Extends (before after : MarkedText) : Prop where
  text : after.text = before.text
  kept : ∀ position m, before.Marked position m → after.Marked position m
  kind : ∀ position m, after.Marked position m → ¬ before.Marked position m →
    m.kind = Mark.tokenKind
  single : ∀ position m n, after.Marked position m → ¬ before.Marked position m →
    after.Marked position n → ¬ before.Marked position n → m = n

/-- Without additions a marked text is extended by itself. -/
theorem Extends.refl (t : MarkedText) : t.Extends t where
  text := rfl
  kept _ _ marked := marked
  kind _ _ marked unmarked := absurd marked unmarked
  single _ _ _ marked unmarked _ _ := absurd marked unmarked

/-- **The leaves of a walk only add** to a marked text, whatever the tokens and the
bounds are. -/
theorem extends_markLeaves (t : MarkedText) (classPrefix : String) (bounds : Span)
    (tokens : List Token) (mode : Mode) :
    t.Extends (t.markLeaves classPrefix bounds (Walk.start tokens mode).leaves) := by
  have gained : ∀ position m,
      (t.markLeaves classPrefix bounds (Walk.start tokens mode).leaves).Marked position m →
      ¬ t.Marked position m →
      ∃ label, (∃ leaf ∈ (Walk.start tokens mode).leaves,
          leaf.Covers (bounds.start + position) (some label)) ∧
        m = .token classPrefix label := by
    intro position m marked unmarked
    rcases (marked_markLeaves classPrefix bounds t _ position m).1 marked with old | new
    · exact absurd old unmarked
    · exact new.2.2
  refine ⟨text_markLeaves classPrefix bounds t _, ?_, ?_, ?_⟩
  · intro position m marked
    exact (marked_markLeaves classPrefix bounds t _ position m).2 (Or.inl marked)
  · intro position m marked unmarked
    obtain ⟨label, _, rfl⟩ := gained position m marked unmarked
    rfl
  · intro position m n markedM unmarkedM markedN unmarkedN
    obtain ⟨first, coversFirst, rfl⟩ := gained position m markedM unmarkedM
    obtain ⟨second, coversSecond, rfl⟩ := gained position n markedN unmarkedN
    rw [Walk.label_unique tokens mode coversFirst coversSecond]

end MarkedText

namespace Decorator

/-- Marking a fragment by any tokens, in any bounds, only adds to its characters. -/
theorem extends_mark {options : Options} {f : Fragment} {basis : Basis} {t : MarkedText}
    (isOk : mark options f basis = .ok t) : f.characters.Extends t := by
  simp only [mark] at isOk
  split at isOk
  · cases isOk
    exact .refl _
  · next tokens _ =>
    split at isOk
    · cases isOk
      exact f.characters.extends_markLeaves options.classPrefix basis.bounds tokens options.mode
    · cases isOk

/-- Whatever a decorator's cache holds, decoration only adds. -/
theorem extends_decorate {d : Decorator} {f : Fragment} {b : Block} {t : MarkedText}
    (isOk : (d.decorate f b).1 = .ok t) : f.characters.Extends t := by
  simp only [decorate] at isOk
  split at isOk
  · cases isOk
  · split at isOk
    · exact extends_mark isOk
    · cases isOk
      exact .refl _

/-- Decorated fragments have their texts. -/
theorem texts_of_decorateFragments {d : Decorator} {b : Block} {fragments : List Fragment}
    {texts : List MarkedText} (isOk : (d.decorateFragments b fragments).1 = .ok texts) :
    texts.map MarkedText.text = fragments.map Fragment.text := by
  induction fragments generalizing d texts with
  | nil =>
      cases isOk
      rfl
  | cons f rest ih =>
      have first := @extends_decorate d f b
      simp only [decorateFragments] at isOk
      generalize d.decorate f b = decorated at isOk first
      obtain ⟨_ | t, after⟩ := decorated
      · cases isOk
      · have others := @ih after
        simp only at isOk
        generalize after.decorateFragments b rest = more at isOk others
        obtain ⟨_ | moreTexts, _⟩ := more
        · cases isOk
        · cases isOk
          rw [List.map_cons, List.map_cons, others rfl, (first rfl).text, f.text_characters]

end Decorator

/-- The characters of a fragment stay as they are if its block is not eligible or
there are no tokens. -/
theorem Options.eq_characters_of_decoration {options : Options} {tokenizer : Tokenizer} {b : Block}
    {f : Fragment} {t : MarkedText} (isOk : options.decoration tokenizer b f = .ok t)
    (unmarked : options.eligible b = false ∨
      tokenizer (options.source f b) (options.grammar b) = none) :
    t = f.characters := by
  simp only [decoration] at isOk
  split at isOk
  · cases isOk
  · split at isOk
    · next eligible =>
      rcases unmarked with notEligible | noTokens
      · exact absurd (eligible.symm.trans notEligible) (by decide)
      · simp only [Decorator.mark, basis, noTokens] at isOk
        cases isOk
        rfl
    · cases isOk
      rfl

namespace Session

/-- **Decoration only adds.** Whatever a program has done before, whatever the tokens
are and whatever fragment is asked for, a decoration that succeeds has the fragment's
characters with all their marks, and at most one more mark on each, of the kind for
lexical categories. If the block is not eligible, or its grammar is not known, nothing
is added. -/
theorem decorate_extends (tokenizer : Tokenizer) (options : Options) (actions : List Action)
    {b : Block} (live : b ∈ ((start tokenizer options).after actions).pool.blocks) {f : Fragment}
    {t : MarkedText}
    (isOk : (((start tokenizer options).after actions).decorator.decorate f b).1 = .ok t) :
    t.text = f.text ∧ f.characters.Extends t ∧
      (options.eligible b = false ∨ tokenizer (options.source f b) (options.grammar b) = none →
        t = f.characters) := by
  have sound := (sound_start tokenizer options).after actions
  have only := Decorator.extends_decorate isOk
  refine ⟨only.text.trans f.text_characters, only, ?_⟩
  rw [(sound.decorator.decorate sound.pool live f).1] at isOk
  exact Options.eq_characters_of_decoration isOk

/-- A bold copy of a line that has grown since, and tokens of another text. -/
theorem decorate_extends_bold :
    let tokenizer : Tokenizer := fun _ _ => some [.leaf "keyword" none "xy"]
    let b := (Block.code "rust" "a\nb" .full).1
    let s := (start tokenizer .standard).after [.edit (.code "rust" "a\nb")]
    let bold : Mark := ⟨"bold", "bold"⟩
    let f : Fragment := ⟨⟨4⟩, ⟨"bcd", by decide⟩, [(⟨0, 1⟩, bold)]⟩
    b ∈ s.pool.blocks ∧ ∃ t, (s.decorator.decorate f b).1 = .ok t ∧ t.text = "bcd" ∧
      t.Marked 0 bold ∧ ∀ m, t.Marked 0 m → m ≠ bold → m.kind = "syntax-token" := by
  intro tokenizer b s bold f
  have live : b ∈ s.pool.blocks := List.mem_singleton.2 rfl
  have sound := (sound_start tokenizer .standard).after [.edit (.code "rust" "a\nb")]
  have agree : ∀ covered expected, ¬ Options.Mismatch .standard tokenizer b f covered expected := by
    rintro covered expected ⟨_, tokens, isTokens, rfl, rfl, differ⟩
    cases isTokens
    exact differ (by decide)
  obtain ⟨t, isOk⟩ := Options.exists_decoration_eq_ok (by decide : f.key ∈ b.keys) agree
  rw [← (sound.decorator.decorate sound.pool live f).1] at isOk
  obtain ⟨text, only, _⟩ := decorate_extends tokenizer .standard
    [.edit (.code "rust" "a\nb")] live isOk
  have marks : f.characters.get? 0 = some ⟨'b', (∅ : MarkSet).insert bold⟩ := by decide
  refine ⟨live, t, isOk, text, only.kept 0 bold ⟨_, marks, by decide⟩, ?_⟩
  intro m marked other
  refine only.kind 0 m marked ?_
  rintro ⟨c, isChar, member⟩
  cases marks.symm.trans isChar
  exact other ((MarkSet.mem_insert.1 member).resolve_right (MarkSet.not_mem_empty m))

end Session

end Highlight
