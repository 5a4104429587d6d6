import Highlight.Proofs.Decoration.Session
import Highlight.Proofs.Document.Layout
import Highlight.Proofs.Grammar.Partition
import Highlight.Proofs.Token.Flattening

/-!
# When decoration fails

There are two ways for the decoration of a fragment to fail. The fragment is none
of the block's (`decoration_eq_notInBlock_iff`), which is found out before anything
else is done. Or the tokens do not have the length of the text they were made of
(`Options.Mismatch`, `decoration_eq_lengthMismatch_iff`).

A registry's tokens have the text that was tokenized, and the length that is
expected is that of this text as far as the mode counts (`measure_source`). So with
a registry the lengths always agree (`not_mismatch_tokenizer`), and blocks and
documents are decorated without a fault.
-/

namespace Highlight

set_option autoImplicit false

/-- What succeeds for every element succeeds for a list. -/
theorem exists_mapM_eq_ok {ε α β : Type} {f : α → Except ε β} {as : List α}
    (each : ∀ a ∈ as, ∃ b, f a = .ok b) : ∃ bs, as.mapM f = .ok bs := by
  induction as with
  | nil => exact ⟨[], rfl⟩
  | cons a rest ih =>
      obtain ⟨b, first⟩ := each a List.mem_cons_self
      obtain ⟨bs, others⟩ := ih fun a member => each a (List.mem_cons_of_mem _ member)
      refine ⟨b :: bs, ?_⟩
      rw [List.mapM_cons, first, others]
      rfl

namespace Options

variable {options : Options} {tokenizer : Tokenizer} {b : Block} {f : Fragment}

/-- The block is eligible, and its tokens, or the fragment's own, have another
length than the text they were made of. -/
def Mismatch (options : Options) (tokenizer : Tokenizer) (b : Block) (f : Fragment)
    (covered expected : Nat) : Prop :=
  options.eligible b = true ∧
    ∃ tokens, tokenizer (options.source f b) (options.grammar b) = some tokens ∧
      covered = options.mode.measure (Token.textAll tokens) ∧
      expected = options.expected f b ∧ covered ≠ expected

/-- What is expected is the length of the text that is tokenized. -/
theorem measure_source (options : Options) (f : Fragment) (b : Block) :
    options.mode.measure (options.source f b) = options.expected f b := by
  simp only [source, expected]
  cases options.mode with
  | plain => rfl
  | joined => exact b.measure_text

/-! ## One fragment -/

/-- Marks are put on a fragment if its tokens have the length that is expected. -/
theorem mark_eq (basis : Basis) {tokens : List Token} (isTokens : basis.tokens = some tokens) :
    Decorator.mark options f basis =
      if options.mode.measure (Token.textAll tokens) = basis.expected then
        .ok (f.characters.markLeaves options.classPrefix basis.bounds
          (Walk.start tokens options.mode).leaves)
      else
        .error (.lengthMismatch (options.mode.measure (Token.textAll tokens)) basis.expected) := by
  simp only [Decorator.mark, isTokens, consumedBy_leaves]

/-- A fragment of another block is not decorated. -/
theorem decoration_of_notMem (notMem : f.key ∉ b.keys) :
    options.decoration tokenizer b f = .error (.fragmentNotInBlock f.key b.key) := by
  simp only [decoration, Block.indexOf?_eq_none_iff.2 notMem]

/-- The decoration of a fragment of the block is marked or a mismatch. -/
theorem decoration_of_mem (member : f.key ∈ b.keys) :
    (∃ t, options.decoration tokenizer b f = .ok t ∧
        ∀ covered expected, ¬ options.Mismatch tokenizer b f covered expected) ∨
      ∃ covered expected, options.decoration tokenizer b f =
          .error (.lengthMismatch covered expected) ∧
        options.Mismatch tokenizer b f covered expected := by
  obtain ⟨index, found⟩ := Block.exists_indexOf?_of_mem member
  simp only [decoration, found]
  by_cases eligible : options.eligible b = true
  · rw [if_pos eligible]
    cases isTokens : tokenizer (options.source f b) (options.grammar b) with
    | none =>
        refine Or.inl ⟨f.characters, ?_, ?_⟩
        · simp only [Decorator.mark, basis, isTokens]
        · rintro covered expected ⟨_, tokens, isSome, _⟩
          exact Option.some_ne_none _ (isSome.symm.trans isTokens)
    | some tokens =>
        rw [mark_eq (options.basis tokenizer f b index) isTokens]
        split
        · next agree =>
          refine Or.inl ⟨_, rfl, ?_⟩
          rintro covered expected ⟨_, others, isSome, rfl, rfl, differ⟩
          cases isTokens.symm.trans isSome
          exact differ agree
        · next differ => exact Or.inr ⟨_, _, rfl, eligible, tokens, isTokens, rfl, rfl, differ⟩
  · rw [if_neg eligible]
    exact Or.inl ⟨f.characters, rfl, fun _ _ mismatch => eligible mismatch.1⟩

/-- **A fragment is reported as none of the block's** exactly if it is none. -/
theorem decoration_eq_notInBlock_iff :
    (∃ fragment block, options.decoration tokenizer b f =
        .error (.fragmentNotInBlock fragment block)) ↔ f.key ∉ b.keys := by
  constructor
  · rintro ⟨fragment, block, isError⟩ member
    rcases decoration_of_mem member with ⟨t, isOk, _⟩ | ⟨covered, expected, isMismatch, _⟩
    · cases isError.symm.trans isOk
    · cases isError.symm.trans isMismatch
  · exact fun notMem => ⟨f.key, b.key, decoration_of_notMem notMem⟩

/-- **Lengths are reported** exactly if they differ. -/
theorem decoration_eq_lengthMismatch_iff (member : f.key ∈ b.keys) (covered expected : Nat) :
    options.decoration tokenizer b f = .error (.lengthMismatch covered expected) ↔
      options.Mismatch tokenizer b f covered expected := by
  rcases @decoration_of_mem options tokenizer b f member with
    ⟨t, isOk, none⟩ | ⟨covered', expected', isMismatch, mismatch⟩
  · constructor
    · intro isError
      cases isError.symm.trans isOk
    · intro mismatch
      exact absurd mismatch (none covered expected)
  · constructor
    · intro isError
      cases isError.symm.trans isMismatch
      exact mismatch
    · rintro ⟨_, tokens, isSome, rfl, rfl, _⟩
      obtain ⟨_, others, isSome', rfl, rfl, _⟩ := mismatch
      cases isSome.symm.trans isSome'
      exact isMismatch

/-- Without a mismatch a fragment of the block is decorated. -/
theorem exists_decoration_eq_ok (member : f.key ∈ b.keys)
    (agree : ∀ covered expected, ¬ options.Mismatch tokenizer b f covered expected) :
    ∃ t, options.decoration tokenizer b f = .ok t := by
  rcases @decoration_of_mem options tokenizer b f member with
    ⟨t, isOk, _⟩ | ⟨covered, expected, _, mismatch⟩
  · exact ⟨t, isOk⟩
  · exact absurd mismatch (agree covered expected)

/-- Tokens that have the text they were made of have its length. -/
theorem not_mismatch_of_partitions
    (partitions : ∀ tokens, tokenizer (options.source f b) (options.grammar b) = some tokens →
      Token.textAll tokens = options.source f b) (covered expected : Nat) :
    ¬ options.Mismatch tokenizer b f covered expected := by
  rintro ⟨_, tokens, isTokens, rfl, rfl, differ⟩
  rw [partitions tokens isTokens, options.measure_source] at differ
  exact differ rfl

/-! ## With a registry -/

section Registry

variable (r : Registry)

/-- The tokens of a registry have the text that was tokenized. -/
theorem textAll_tokenizer {text grammar : String} {tokens : List Token}
    (isTokens : r.tokenizer text grammar = some tokens) : Token.textAll tokens = text := by
  obtain ⟨g, _, rfl⟩ := Option.map_eq_some_iff.1 isTokens
  exact g.textAll_tokenize text

/-- The tokens of a registry have the length that is expected. -/
theorem not_mismatch_tokenizer (options : Options) (b : Block) (f : Fragment)
    (covered expected : Nat) : ¬ options.Mismatch r.tokenizer b f covered expected :=
  not_mismatch_of_partitions (fun _ isTokens => textAll_tokenizer r isTokens) covered expected

theorem exists_blockDecoration_eq_ok (options : Options) (b : Block) :
    ∃ texts, options.blockDecoration r.tokenizer b = .ok texts := by
  refine exists_mapM_eq_ok fun f member => ?_
  exact exists_decoration_eq_ok (List.mem_map_of_mem member) (not_mismatch_tokenizer r options b f)

theorem exists_blocksDecoration_eq_ok (options : Options) (blocks : List Block) :
    ∃ marked, options.blocksDecoration r.tokenizer blocks = .ok marked := by
  refine exists_mapM_eq_ok fun b _ => ?_
  obtain ⟨texts, isOk⟩ := exists_blockDecoration_eq_ok r options b
  exact ⟨(b.key, texts), by rw [isOk]; rfl⟩

end Registry

end Options

/-! ## In a session -/

/-- A decorator that is asked for a fragment of another block does nothing. -/
theorem Decorator.decorate_of_notMem (d : Decorator) {b : Block} {f : Fragment}
    (notMem : f.key ∉ b.keys) :
    d.decorate f b = (.error (.fragmentNotInBlock f.key b.key), d) := by
  simp only [decorate, Block.indexOf?_eq_none_iff.2 notMem]

namespace Session

/-- **When decoration fails.** Whatever a program has done before, a fragment is
reported as none of the block's exactly if its key is not among theirs, and then the
decorator stays as it is. Otherwise two lengths are reported exactly if they are
those of the tokens and of the text, and differ, and there is no other fault. With a
registry for a tokenizer lengths never differ, and blocks and documents are
decorated. -/
theorem decorate_fails_iff (tokenizer : Tokenizer) (options : Options) (actions : List Action)
    {b : Block} (live : b ∈ ((start tokenizer options).after actions).pool.blocks) (f : Fragment) :
    let s := (start tokenizer options).after actions
    ((∃ fragment block, (s.decorator.decorate f b).1 =
        .error (.fragmentNotInBlock fragment block)) ↔ f.key ∉ b.keys) ∧
      (f.key ∉ b.keys → s.decorator.decorate f b =
        (.error (.fragmentNotInBlock f.key b.key), s.decorator)) ∧
      (f.key ∈ b.keys → ∀ covered expected,
        (s.decorator.decorate f b).1 = .error (.lengthMismatch covered expected) ↔
          options.Mismatch tokenizer b f covered expected) ∧
      (f.key ∈ b.keys → (∀ covered expected, ¬ options.Mismatch tokenizer b f covered expected) →
        ∃ t, (s.decorator.decorate f b).1 = .ok t) ∧
      ∀ r : Registry, tokenizer = r.tokenizer →
        (∀ covered expected,
          (s.decorator.decorate f b).1 ≠ .error (.lengthMismatch covered expected)) ∧
        (∃ texts, (s.decorator.decorateBlock b).1 = .ok texts) ∧
        ∀ document : Document, (∀ c ∈ document.blocks, c ∈ s.pool.blocks) →
          ∃ marked, (s.decorator.decorateDocument document).1 = .ok marked := by
  intro s
  have sound : s.Sound tokenizer options := (sound_start tokenizer options).after actions
  obtain ⟨result, _⟩ := sound.decorator.decorate sound.pool live f
  rw [result]
  refine ⟨Options.decoration_eq_notInBlock_iff, s.decorator.decorate_of_notMem,
    Options.decoration_eq_lengthMismatch_iff, Options.exists_decoration_eq_ok, ?_⟩
  rintro r rfl
  refine ⟨?_, ?_, ?_⟩
  · intro covered expected isMismatch
    by_cases member : f.key ∈ b.keys
    · exact Options.not_mismatch_tokenizer r options b f covered expected
        ((Options.decoration_eq_lengthMismatch_iff member covered expected).1 isMismatch)
    · rw [Options.decoration_of_notMem member] at isMismatch
      cases isMismatch
  · rw [(sound.decorator.decorateBlock sound.pool live).1]
    exact Options.exists_blockDecoration_eq_ok r options b
  · intro document liveAll
    rw [(sound.decorator.decorateDocument sound.pool liveAll).1]
    exact Options.exists_blocksDecoration_eq_ok r options document.blocks

/-- Two characters of tokens for a line of three are reported. -/
theorem decorate_fails_two_of_three :
    let tokenizer : Tokenizer := fun _ _ => some [.literal "ab"]
    let b := (Block.code "rust" "abc" .full).1
    let s := (start tokenizer .standard).after [.edit (.code "rust" "abc")]
    b ∈ s.pool.blocks ∧ ∃ f ∈ b.fragments,
      (s.decorator.decorate f b).1 = .error (.lengthMismatch 2 3) := by
  intro tokenizer b s
  have live : b ∈ s.pool.blocks := List.mem_singleton.2 rfl
  refine ⟨live, ⟨⟨3⟩, ⟨"abc", by decide⟩, []⟩, by decide, ?_⟩
  obtain ⟨_, _, mismatch, _⟩ := decorate_fails_iff tokenizer .standard
    [.edit (.code "rust" "abc")] live ⟨⟨3⟩, ⟨"abc", by decide⟩, []⟩
  refine (mismatch (by decide) 2 3).2 ⟨by decide, [.literal "ab"], rfl, ?_, ?_, by decide⟩
  · decide
  · decide

end Session

end Highlight
