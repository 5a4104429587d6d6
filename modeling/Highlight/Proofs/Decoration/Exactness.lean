import Highlight.Proofs.Decoration.Failure
import Highlight.Proofs.Decoration.Leaves

/-!
# Decoration puts exactly the right marks

A character of a fragment has two positions. Its place in the text that is tokenized
counts every character of that text, and the names above it in the token tree are
found there (`Token.pathAll`). Its position among the leaves leaves out line breaks,
and decoration marks the characters whose position a labelled leaf covers.

The two belong together: as many counted characters come before the place as the
position says (`counted_place`). So, if the tokens have the text they were made of,
decoration marks every character of a fragment with the label of the path to it and
takes no mark away (`marked_decoration`).
-/

namespace Highlight

set_option autoImplicit false

namespace Options

/-- Where in the text that is tokenized the character at an index of a fragment
stands, given where in its block's text the fragment begins. -/
def place (options : Options) (offset position : Nat) : Nat :=
  match options.mode with
  | .plain => position
  | .joined => offset + position

variable (options : Options)

/-- A fragment's bounds are as long as the fragment. -/
theorem stop_bounds (f : Fragment) (b : Block) (index : Nat) :
    (options.bounds f b index).stop = (options.bounds f b index).start + f.length := by
  simp only [bounds]
  cases options.mode with
  | plain => exact (Nat.zero_add _).symm
  | joined => rfl

/-! A fragment with the key and the text of one of the block's, whose keys differ. -/

section Known

variable {b : Block} {f g : Fragment} (distinct : b.keys.Nodup) (among : g ∈ b.fragments)
  (sameKey : f.key = g.key) (sameText : f.text = g.text) {index : Nat}
  (found : b.indexOf? f.key = some index)
include distinct among sameKey sameText found

/-- **The place of a character and its position among the leaves.** The character
is found at its place in the text that is tokenized, it counts, and as many
characters before it count as its position says. -/
theorem counted_place {position : Nat} (inside : position < f.length) :
    ∃ c, (options.source f b).toList[options.place (b.offsetAt index) position]? = some c ∧
      options.mode.counts c = true ∧
      ((options.source f b).toList.take (options.place (b.offsetAt index) position)).countP
          options.mode.counts =
        (options.bounds f b index).start + position := by
  have present : position < f.text.toList.length := by rwa [String.length_toList]
  refine ⟨f.text.toList[position], ?_⟩
  simp only [source, place, bounds]
  cases options.mode with
  | plain =>
      refine ⟨List.getElem?_eq_getElem present, rfl, ?_⟩
      have all : ∀ c ∈ f.text.toList.take position, Mode.plain.counts c = true := fun _ _ => rfl
      show (f.text.toList.take position).countP Mode.plain.counts = 0 + position
      rw [List.countP_eq_length.2 all, List.length_take, Nat.min_eq_left (Nat.le_of_lt present),
        Nat.zero_add]
  | joined =>
      obtain ⟨before, h, after, split, rfl, isKey⟩ := Block.exists_split_of_indexOf? found
      have same : h = g :=
        Block.eq_of_key_eq distinct (Block.mem_of_split split) among (isKey.trans sameKey)
      subst same
      have length : f.length = h.length := congrArg String.length sameText
      refine ⟨?_, ?_, Block.countP_take_text_of_split split (length ▸ Nat.le_of_lt inside)⟩
      · rw [← List.getElem?_eq_getElem present, sameText]
        exact Block.getElem?_text_of_split split (length ▸ inside)
      · exact bne_iff_ne.2 fun isBreak => f.unbroken (isBreak ▸ List.getElem_mem present)

/-- The place of a character lies in the text that the tokens cover. -/
theorem place_lt_lengthAll {position : Nat} (inside : position < f.length) {tokens : List Token}
    (text : Token.textAll tokens = options.source f b) :
    options.place (b.offsetAt index) position < Token.lengthAll tokens := by
  obtain ⟨c, at', _⟩ := counted_place options distinct among sameKey sameText found inside
  rw [← Token.length_textAll, text, ← String.length_toList]
  exact (List.getElem?_eq_some_iff.1 at').1

/-- The leaves of tokens that have the tokenized text mark a character by its path
and keep its marks. -/
theorem marked_leaves_iff_path {position : Nat} (inside : position < f.length)
    {tokens : List Token} (text : Token.textAll tokens = options.source f b) (m : Mark) :
    (f.characters.markLeaves options.classPrefix (options.bounds f b index)
        (Walk.start tokens options.mode).leaves).Marked position m ↔
      f.characters.Marked position m ∨
        ∃ names, Token.pathAll none tokens (options.place (b.offsetAt index) position) =
            some names ∧
          m = .token options.classPrefix (Label.ofNames names) := by
  obtain ⟨c, at', counts, count⟩ :=
    counted_place options distinct among sameKey sameText found inside
  rw [← text] at at' count
  have covers := Walk.exists_leaf_iff_path tokens options.mode at' counts
  rw [count] at covers
  have stop := options.stop_bounds f b index
  rw [MarkedText.marked_markLeaves, f.length_characters]
  refine or_congr Iff.rfl ⟨?_, ?_⟩
  · rintro ⟨_, _, label, covered, isMark⟩
    obtain ⟨names, isPath, rfl⟩ := (covers label).1 covered
    exact ⟨names, isPath, isMark⟩
  · rintro ⟨names, isPath, isMark⟩
    refine ⟨inside, ?_, Label.ofNames names, (covers _).2 ⟨names, isPath, rfl⟩, isMark⟩
    rw [stop]
    exact Nat.add_lt_add_left inside _

/-- **Decoration marks every character of a fragment by its path**, keeps the marks
it has, and puts no others. -/
theorem marked_decoration {tokenizer : Tokenizer} (eligible : options.eligible b = true)
    (partitions : ∀ tokens, tokenizer (options.source f b) (options.grammar b) = some tokens →
      Token.textAll tokens = options.source f b) :
    ∃ t, options.decoration tokenizer b f = .ok t ∧ t.text = f.text ∧
      ∀ position < f.length, ∀ m, t.Marked position m ↔
        f.characters.Marked position m ∨
          ∃ tokens names, tokenizer (options.source f b) (options.grammar b) = some tokens ∧
            Token.pathAll none tokens (options.place (b.offsetAt index) position) = some names ∧
            m = .token options.classPrefix (Label.ofNames names) := by
  simp only [decoration, found, if_pos eligible]
  cases isTokens : tokenizer (options.source f b) (options.grammar b) with
  | none =>
      refine ⟨f.characters, ?_, f.text_characters, ?_⟩
      · simp only [Decorator.mark, basis, isTokens]
      · intro position inside m
        simp
  | some tokens =>
      have text := partitions tokens isTokens
      rw [mark_eq (options.basis tokenizer f b index) isTokens]
      have agree : options.mode.measure (Token.textAll tokens) =
          (options.basis tokenizer f b index).expected := by
        rw [text, options.measure_source]
        rfl
      rw [if_pos agree]
      refine ⟨_, rfl, ?_, ?_⟩
      · rw [MarkedText.text_markLeaves, f.text_characters]
      · intro position inside m
        refine (marked_leaves_iff_path options distinct among sameKey sameText found inside text
          m).trans (or_congr Iff.rfl ?_)
        simp only [Option.some.injEq, exists_and_left, exists_eq_left']

end Known

end Options

namespace Session

/-- **Decoration is exact.** Whatever a program has done before, a decorator marks
every character of a fragment of an eligible block with the label of the names above
its place in the tokens, if there are any, and besides that gives it the marks it has
and no others, as long as the tokens have the text they were made of. That place lies
in the text that the tokens cover. The fragment can be any that has the key and the
text of one of the block's. -/
theorem decorate_exact (tokenizer : Tokenizer) (options : Options) (actions : List Action)
    {b : Block} (live : b ∈ ((start tokenizer options).after actions).pool.blocks)
    (eligible : options.eligible b = true) {f g : Fragment} (among : g ∈ b.fragments)
    (sameKey : f.key = g.key) (sameText : f.text = g.text)
    (partitions : ∀ tokens, tokenizer (options.source f b) (options.grammar b) = some tokens →
      Token.textAll tokens = options.source f b) :
    ∃ t offset,
      (((start tokenizer options).after actions).decorator.decorate f b).1 = .ok t ∧
      b.offsetOf? f.key = some offset ∧ t.text = f.text ∧
      ∀ position < f.length,
        (∀ tokens, tokenizer (options.source f b) (options.grammar b) = some tokens →
          options.place offset position < Token.lengthAll tokens) ∧
        ∀ m, t.Marked position m ↔
          f.characters.Marked position m ∨
            ∃ tokens names, tokenizer (options.source f b) (options.grammar b) = some tokens ∧
              Token.pathAll none tokens (options.place offset position) = some names ∧
              m = .token options.classPrefix (Label.ofNames names) := by
  have sound := (sound_start tokenizer options).after actions
  have distinct := (sound.pool.given b live).distinct
  have member : f.key ∈ b.keys := sameKey ▸ List.mem_map_of_mem among
  obtain ⟨index, found⟩ := Block.exists_indexOf?_of_mem member
  obtain ⟨t, isOk, text, marked⟩ :=
    options.marked_decoration distinct among sameKey sameText found eligible partitions
  refine ⟨t, b.offsetAt index, ?_, ?_, text, ?_⟩
  · rw [(sound.decorator.decorate sound.pool live f).1, isOk]
  · rw [Block.offsetOf?, found, Option.map_some]
  · intro position inside
    refine ⟨?_, marked position inside⟩
    intro tokens isTokens
    exact options.place_lt_lengthAll distinct among sameKey sameText found inside
      (partitions tokens isTokens)

/-- A keyword on the second line of a block, behind a literal that ends with the
line break. -/
theorem decorate_exact_second_line :
    let tokenizer : Tokenizer := fun _ _ => some [.literal "a\n", .leaf "keyword" none "b"]
    let b := (Block.code "rust" "a\nb" .full).1
    let s := (start tokenizer .standard).after [.edit (.code "rust" "a\nb")]
    b ∈ s.pool.blocks ∧ ∃ f ∈ b.fragments, ∃ t, (s.decorator.decorate f b).1 = .ok t ∧
      t.Marked 0 ⟨"syntax-token", "token keyword"⟩ := by
  intro tokenizer b s
  have live : b ∈ s.pool.blocks := List.mem_singleton.2 rfl
  have among : (⟨⟨4⟩, ⟨"b", by decide⟩, []⟩ : Fragment) ∈ b.fragments := by decide
  have partitions : ∀ tokens, some [.literal "a\n", .leaf "keyword" none "b"] = some tokens →
      Token.textAll tokens = "a\nb" := by
    rintro tokens ⟨rfl⟩
    decide
  obtain ⟨t, offset, isOk, isOffset, _, marked⟩ := decorate_exact tokenizer .standard
    [.edit (.code "rust" "a\nb")] live (by decide) among rfl rfl partitions
  have atTwo : offset = 2 := Option.some.inj (isOffset.symm.trans (by decide))
  subst atTwo
  refine ⟨live, _, among, t, isOk, ?_⟩
  refine ((marked 0 (by decide)).2 _).2 (Or.inr ⟨_, ["keyword"], rfl, ?_, ?_⟩)
  · decide
  · decide

end Session

end Highlight
