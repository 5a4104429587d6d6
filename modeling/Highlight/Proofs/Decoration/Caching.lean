import Highlight.Decoration.Decorator
import Highlight.Proofs.Document.Pool

/-!
# Decoration with tokens from a cache

What a decoration comes to if everything is tokenized anew can be said without a
decorator (`Options.decoration`). A decorator comes to the same as long as its
cache is faithful to the blocks of the program: the cache's entry has the tokens of
each block whose revision it has.

A faithful cache stays so when blocks are made and changed (`Faithful.follows`),
for a new state never gets the revision of the entry, and when it is asked for the
tokens of a block (`Faithful.fetch`). So one decoration after the other comes to what
it should (`Serves.decorate`, `Serves.decorateBlock`, `Serves.decorateDocument`),
whatever the decorator was asked before.
-/

namespace Highlight

set_option autoImplicit false

/-! ## Decoration anew -/

namespace Options

variable (options : Options) (tokenizer : Tokenizer)

/-- The text that is tokenized for a fragment of a block. -/
def source (fragment : Fragment) (block : Block) : String :=
  match options.mode with
  | .plain => fragment.text
  | .joined => block.text

/-- The bounds, among the leaves of that text, of the fragment at an index. -/
def bounds (fragment : Fragment) (block : Block) (index : Nat) : Span :=
  match options.mode with
  | .plain => .whole fragment.length
  | .joined => .inBlock (block.offsetAt index) index fragment.length

/-- The length that the leaves of that text must have. -/
def expected (fragment : Fragment) (block : Block) : Nat :=
  match options.mode with
  | .plain => fragment.length
  | .joined => block.contentLength

/-- What a fragment's decoration is made of if its text is tokenized anew. -/
def basis (fragment : Fragment) (block : Block) (index : Nat) : Basis :=
  ⟨tokenizer (options.source fragment block) (options.grammar block),
    options.bounds fragment block index, options.expected fragment block⟩

/-- The decoration of a fragment of a block. -/
def decoration (block : Block) (fragment : Fragment) : Except Fault MarkedText :=
  match block.indexOf? fragment.key with
  | none => .error (.fragmentNotInBlock fragment.key block.key)
  | some index =>
      if options.eligible block then
        Decorator.mark options fragment (options.basis tokenizer fragment block index)
      else .ok fragment.characters

/-- The decorations of the fragments of a block. -/
def blockDecoration (block : Block) : Except Fault (List MarkedText) :=
  block.fragments.mapM (options.decoration tokenizer block)

/-- The decorations of the eligible ones of some blocks. -/
def blocksDecoration (blocks : List Block) : Except Fault (List (BlockKey × List MarkedText)) :=
  (blocks.filter options.eligible).mapM fun block =>
    (options.blockDecoration tokenizer block).map fun texts => (block.key, texts)

end Options

/-! ## Faithful caches -/

namespace Cache

/-- The entry of a cache, if there is one, has a revision that was given out, and
the tokens of each block of the program that has the same revision. -/
def Faithful (c : Cache) (tokenizer : Tokenizer) (p : Pool) : Prop :=
  ∀ e, c.entry = some e → e.revision.number < p.supply.next ∧
    ∀ b ∈ p.blocks, e.revision = b.revision → e.tokens = tokenizer b.text e.grammar

namespace Faithful

variable {c : Cache} {tokenizer : Tokenizer} {p : Pool}

/-- A cache without an entry is faithful. -/
theorem empty (enabled : Bool) : (Cache.empty enabled).Faithful tokenizer p :=
  fun _ isEntry => nomatch isEntry

/-- Switching a cache keeps its entry or drops it. -/
theorem setEnabled (faithful : c.Faithful tokenizer p) (enabled : Bool) :
    (c.setEnabled enabled).Faithful tokenizer p := by
  intro e isEntry
  cases enabled with
  | true => exact faithful e isEntry
  | false => cases isEntry

/-- The entry stays right when blocks are made and changed. -/
theorem follows {q : Pool} (faithful : c.Faithful tokenizer p) (follows : p.Follows q) :
    c.Faithful tokenizer q := by
  obtain ⟨made, renewed, blocks⟩ := follows.blocks
  intro e isEntry
  obtain ⟨given, tokens⟩ := faithful e isEntry
  refine ⟨Nat.lt_of_lt_of_le given follows.supply, ?_⟩
  intro b member equal
  rcases blocks b member with ⟨c, old, same⟩ | isMade
  · rw [← same.text]
    exact tokens c old (equal.trans same.revision.symm)
  · have fresh := (renewed b isMade).fresh
    rw [← equal] at fresh
    omega

section Fetch

variable {σ : Type} {b : Block} {grammar : String}
  {tokenize : String → σ → Option (List Token) × σ}
  (tokens : ∀ text state, (tokenize text state).1 = tokenizer text grammar)
include tokens

/-- A faithful cache gives a block's tokens, made before or made anew. -/
theorem tokens_fetch (faithful : c.Faithful tokenizer p) (live : b ∈ p.blocks) (state : σ) :
    (c.fetch b grammar tokenize state).1 = tokenizer b.text grammar := by
  simp only [Cache.fetch]
  split
  · split
    · next e found =>
      obtain ⟨isEntry, isFor⟩ := Option.filter_eq_some_iff.1 found
      obtain ⟨-, sameRevision, rfl⟩ := of_decide_eq_true isFor
      exact (faithful e isEntry).2 b live sameRevision
    · exact tokens b.text state
  · exact tokens b.text state

/-- A faithful cache that was asked for a block's tokens is faithful. -/
theorem fetch (faithful : c.Faithful tokenizer p) (sound : p.Sound) (live : b ∈ p.blocks)
    (state : σ) : (c.fetch b grammar tokenize state).2.1.Faithful tokenizer p := by
  simp only [Cache.fetch]
  split
  · split
    · exact faithful
    · intro e isEntry
      cases isEntry
      refine ⟨(sound.given b live).revision, ?_⟩
      intro other member equal
      rw [← (sound.sameState b live other member equal).text]
      exact tokens b.text state
  · exact faithful

end Fetch

end Faithful

end Cache

/-! ## Decorators with a faithful cache -/

namespace Decorator

/-- A decorator has a tokenizer and some options, used with a cache or without,
and its cache is faithful. -/
structure Serves (d : Decorator) (tokenizer : Tokenizer) (options : Options) (p : Pool) :
    Prop where
  cache : d.cache.Faithful tokenizer p
  tokenizer : d.tokenizer = tokenizer
  options : ∃ cached, d.options = { options with cached }

variable {tokenizer : Tokenizer} {options : Options} {p : Pool}

theorem serves_new (cached : Bool) :
    (new tokenizer { options with cached }).Serves tokenizer options p :=
  ⟨.empty _, rfl, ⟨cached, rfl⟩⟩

namespace Serves

variable {d : Decorator} (serves : d.Serves tokenizer options p)
include serves

theorem setCached (cached : Bool) : (d.setCached cached).Serves tokenizer options p := by
  obtain ⟨cached', isOptions⟩ := serves.options
  refine ⟨serves.cache.setEnabled cached, serves.tokenizer, ⟨cached, ?_⟩⟩
  simp only [Decorator.setCached, isOptions]

theorem follows {q : Pool} (follows : p.Follows q) : d.Serves tokenizer options q :=
  ⟨serves.cache.follows follows, serves.tokenizer, serves.options⟩

section Live

variable (sound : p.Sound) {b : Block} (live : b ∈ p.blocks)
include sound live

/-- A fragment's decoration is made of what tokenizing anew gives. -/
theorem basis (f : Fragment) (index : Nat) :
    (d.basis f b index).1 = options.basis tokenizer f b index ∧
      (d.basis f b index).2.Serves tokenizer options p := by
  obtain ⟨faithful, rfl, cached, isOptions⟩ := serves
  have sameGrammar : d.options.grammar b = options.grammar b := by rw [isOptions]
  have sameMode : d.options.mode = options.mode := by rw [isOptions]
  simp only [Decorator.basis, sameGrammar, sameMode, Options.basis, Options.source,
    Options.bounds, Options.expected]
  cases options.mode with
  | plain => exact ⟨rfl, faithful, rfl, ⟨cached, isOptions⟩⟩
  | joined =>
      have calls : ∀ text calls, (d.call (options.grammar b) text calls).1 =
          d.tokenizer text (options.grammar b) := fun _ _ => rfl
      have tokens := faithful.tokens_fetch calls live d.calls
      exact ⟨by simp only [tokens], faithful.fetch calls sound live d.calls, rfl,
        ⟨cached, isOptions⟩⟩

/-- **A decorator gives the decoration of a fragment**, and serves as before. -/
theorem decorate (f : Fragment) :
    (d.decorate f b).1 = options.decoration tokenizer b f ∧
      (d.decorate f b).2.Serves tokenizer options p := by
  obtain ⟨cached, isOptions⟩ := serves.options
  have sameEligible : d.options.eligible b = options.eligible b := by rw [isOptions]
  simp only [Decorator.decorate, Options.decoration, sameEligible]
  cases b.indexOf? f.key with
  | none => exact ⟨rfl, serves⟩
  | some index =>
      obtain ⟨isBasis, after⟩ := serves.basis sound live f index
      by_cases eligible : options.eligible b = true
      · simp only [eligible, if_true, isBasis]
        rw [isOptions]
        exact ⟨rfl, after⟩
      · simp only [eligible]
        exact ⟨rfl, serves⟩

/-- A decorator gives the decorations of fragments, up to the first fault. -/
theorem decorateFragments (fragments : List Fragment) :
    (d.decorateFragments b fragments).1 = fragments.mapM (options.decoration tokenizer b) ∧
      (d.decorateFragments b fragments).2.Serves tokenizer options p := by
  induction fragments generalizing d with
  | nil => exact ⟨rfl, serves⟩
  | cons f rest ih =>
      obtain ⟨first, after⟩ := serves.decorate sound live f
      rw [List.mapM_cons, ← first]
      simp only [Decorator.decorateFragments]
      generalize d.decorate f b = decorated at after
      obtain ⟨_ | text, d'⟩ := decorated
      · exact ⟨rfl, after⟩
      · obtain ⟨others, after⟩ := ih after
        rw [← others]
        simp only
        generalize d'.decorateFragments b rest = decorated at after
        obtain ⟨_ | texts, _⟩ := decorated
        · exact ⟨rfl, after⟩
        · exact ⟨rfl, after⟩

/-- **A decorator gives the decorations of a block's fragments.** -/
theorem decorateBlock :
    (d.decorateBlock b).1 = options.blockDecoration tokenizer b ∧
      (d.decorateBlock b).2.Serves tokenizer options p :=
  serves.decorateFragments sound live b.fragments

end Live

/-- A decorator gives the decorations of blocks, up to the first fault. -/
theorem decorateBlocks (sound : p.Sound) {blocks : List Block} (live : ∀ b ∈ blocks, b ∈ p.blocks) :
    (d.decorateBlocks blocks).1 = options.blocksDecoration tokenizer blocks ∧
      (d.decorateBlocks blocks).2.Serves tokenizer options p := by
  induction blocks generalizing d with
  | nil => exact ⟨rfl, serves⟩
  | cons b rest ih =>
      have liveRest : ∀ b ∈ rest, b ∈ p.blocks := fun b member =>
        live b (List.mem_cons_of_mem _ member)
      obtain ⟨cached, isOptions⟩ := serves.options
      have eligible : d.options.eligible b = options.eligible b := by rw [isOptions]
      simp only [Decorator.decorateBlocks, Options.blocksDecoration, eligible]
      by_cases isEligible : options.eligible b = true
      · obtain ⟨first, after⟩ := serves.decorateBlock sound (live b List.mem_cons_self)
        rw [List.filter_cons_of_pos isEligible, List.mapM_cons, ← first, if_pos isEligible]
        generalize d.decorateBlock b = decorated at after
        obtain ⟨_ | texts, d'⟩ := decorated
        · exact ⟨rfl, after⟩
        · obtain ⟨others, after⟩ := ih after liveRest
          rw [Options.blocksDecoration] at others
          rw [← others]
          simp only
          generalize d'.decorateBlocks rest = decorated at after
          obtain ⟨_ | more, _⟩ := decorated
          · exact ⟨rfl, after⟩
          · exact ⟨rfl, after⟩
      · rw [List.filter_cons_of_neg isEligible, if_neg isEligible]
        exact ih serves liveRest

/-- **A decorator gives the decorations of a document's eligible blocks.** -/
theorem decorateDocument (sound : p.Sound) {document : Document}
    (live : ∀ b ∈ document.blocks, b ∈ p.blocks) :
    (d.decorateDocument document).1 = options.blocksDecoration tokenizer document.blocks ∧
      (d.decorateDocument document).2.Serves tokenizer options p :=
  serves.decorateBlocks sound live

end Serves

end Decorator

end Highlight
