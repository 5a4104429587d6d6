import Highlight.Proofs.Decoration.Exactness
import Highlight.Proofs.Document.Positions
import Highlight.Proofs.Mark.Sameness

/-!
# Line by line or joined

A tokenizer can come to the same whether it is given the lines of a block one by one or
joined: the tokens of the joined lines are those of the lines, with a plain line break
between two of them (`Block.TokenizedByLines`). The path to a character is then the same
among the tokens of its line and among those of the block, since as many characters stand
before the tokens of a line as before the line (`pathAll_of_split`).

The marks of a character depend on the path to it alone, and so decoration puts the same
marks in either mode (`Options.exists_decoration_of_paths`, `Session.modes_agree`). A block
of one line is such a case, whatever the tokenizer does.
-/

namespace Highlight

set_option autoImplicit false

/-! ## Rows of tokens with breaks between them -/

/-- A row among others that are put in a row with something between each and the next. -/
theorem intercalate_append_cons {α : Type} (between : List α) (before after : List (List α))
    (row : List α) :
    List.intercalate between (before ++ row :: after) =
      before.flatMap (· ++ between) ++ row ++ after.flatMap (between ++ ·) := by
  induction before with
  | nil =>
      rw [List.nil_append, List.flatMap_nil, List.nil_append]
      induction after generalizing row with
      | nil => rw [List.intercalate_singleton, List.flatMap_nil, List.append_nil]
      | cons next rest ih =>
          rw [List.intercalate_cons_cons, ih, List.flatMap_cons, List.append_assoc,
            List.append_assoc]
  | cons first rest ih =>
      rw [List.cons_append, List.intercalate_cons_of_ne_nil (List.append_ne_nil_of_right_ne_nil _
        (List.cons_ne_nil _ _)), ih, List.flatMap_cons]
      simp only [List.append_assoc]

/-- Rows that are as long as their lines, each with a break behind it, are as long as the
closed lines. -/
theorem lengthAll_closedRows {fragments : List Fragment} {rows : Fragment → List Token}
    (long : ∀ f ∈ fragments, Token.lengthAll (rows f) = f.length) :
    Token.lengthAll ((fragments.map rows).flatMap (· ++ [.literal "\n"])) =
      (fragments.map fun f => f.text.length).sum + fragments.length := by
  induction fragments with
  | nil => rfl
  | cons f rest ih =>
      obtain ⟨here, later⟩ := List.forall_mem_cons.1 long
      have break' : Token.lengthAll [.literal "\n"] = 1 := rfl
      have length : f.length = f.text.length := rfl
      rw [List.map_cons, List.flatMap_cons, Token.lengthAll_append, Token.lengthAll_append,
        ih later, here, break', List.map_cons, List.sum_cons, List.length_cons, length]
      omega

/-- Two computations that come to the same for every element do so for a list. -/
theorem mapM_congr_mem {ε α β : Type} {f g : α → Except ε β} {as : List α}
    (same : ∀ a ∈ as, f a = g a) : as.mapM f = as.mapM g := by
  induction as with
  | nil => rfl
  | cons a rest ih =>
      obtain ⟨here, later⟩ := List.forall_mem_cons.1 same
      rw [List.mapM_cons, List.mapM_cons, here, ih later]

/-! ## Tokenizing by lines -/

/-- Whether the tokens of a block's text are those of its fragments, with a plain line break
between each and the next. -/
def Block.TokenizedByLines (b : Block) (tokenizer : Tokenizer) (grammar : String) : Prop :=
  ∃ rows : Fragment → List Token,
    (∀ f ∈ b.fragments, tokenizer f.text grammar = some (rows f)) ∧
    tokenizer b.text grammar =
      some (List.intercalate [.literal "\n"] (b.fragments.map rows))

/-- **The path to a character** among the tokens of its line leads to it among those of the
block. -/
theorem pathAll_of_split {b : Block} {before after : List Fragment} {f : Fragment}
    (split : b.fragments = before ++ f :: after) {rows : Fragment → List Token}
    (long : ∀ g ∈ b.fragments, Token.lengthAll (rows g) = g.length) {position : Nat}
    (inside : position < f.length) :
    Token.pathAll none (List.intercalate [.literal "\n"] (b.fragments.map rows))
        (b.offsetAt before.length + position) =
      Token.pathAll none (rows f) position := by
  have earlier : ∀ g ∈ before, Token.lengthAll (rows g) = g.length := by
    intro g member
    exact long g (split ▸ List.mem_append_left _ member)
  have own : Token.lengthAll (rows f) = f.length := long f (Block.mem_of_split split)
  have offset : Token.lengthAll ((before.map rows).flatMap (· ++ [.literal "\n"])) =
      b.offsetAt before.length := by
    rw [lengthAll_closedRows earlier, Block.offsetAt_of_split split]
  rw [split, List.map_append, List.map_cons, intercalate_append_cons, List.append_assoc,
    Token.pathAll_append, offset, if_neg (Nat.not_lt.2 (Nat.le_add_right _ _)),
    Nat.add_sub_cancel_left, Token.pathAll_append, if_pos (own ▸ inside)]

namespace Options

variable {options : Options} {tokenizer : Tokenizer} {b : Block} {f : Fragment}

/-- **Decoration depends on paths alone.** If each character of a fragment has the same path
among the tokens of the fragment and among those of its block, both modes decorate the
fragment in the same way. -/
theorem exists_decoration_of_paths (distinct : b.keys.Nodup) (member : f ∈ b.fragments)
    {index : Nat} (found : b.indexOf? f.key = some index)
    (eligible : options.eligible b = true)
    (partitions : ∀ text tokens, tokenizer text (options.grammar b) = some tokens →
      Token.textAll tokens = text)
    (paths : ∀ position < f.length, ∀ names,
      (∃ tokens, tokenizer f.text (options.grammar b) = some tokens ∧
          Token.pathAll none tokens position = some names) ↔
        ∃ tokens, tokenizer b.text (options.grammar b) = some tokens ∧
          Token.pathAll none tokens (b.offsetAt index + position) = some names) :
    ∃ t, { options with mode := .plain }.decoration tokenizer b f = .ok t ∧
      { options with mode := .joined }.decoration tokenizer b f = .ok t := by
  obtain ⟨t, isPlain, text, marked⟩ := marked_decoration { options with mode := .plain }
    distinct member rfl rfl found eligible (partitions f.text)
  obtain ⟨u, isJoined, text', marked'⟩ := marked_decoration { options with mode := .joined }
    distinct member rfl rfl found eligible (partitions b.text)
  have length : t.length = f.length := by
    rw [← MarkedText.length_text, text]
    rfl
  have same : t = u := by
    apply MarkedText.eq_of_marked_iff (text.trans text'.symm)
    intro position inside m
    rw [length] at inside
    refine (marked position inside m).trans (Iff.trans ?_ (marked' position inside m).symm)
    refine or_congr Iff.rfl ?_
    constructor
    · rintro ⟨tokens, names, areTokens, isPath, isMark⟩
      obtain ⟨others, areOthers, isPath⟩ := (paths position inside names).1 ⟨_, areTokens, isPath⟩
      exact ⟨others, names, areOthers, isPath, isMark⟩
    · rintro ⟨tokens, names, areTokens, isPath, isMark⟩
      obtain ⟨others, areOthers, isPath⟩ := (paths position inside names).2 ⟨_, areTokens, isPath⟩
      exact ⟨others, names, areOthers, isPath, isMark⟩
  exact ⟨t, isPlain, same ▸ isJoined⟩

section Lines

variable (distinct : b.keys.Nodup) (eligible : options.eligible b = true)
  (partitions : ∀ text tokens, tokenizer text (options.grammar b) = some tokens →
    Token.textAll tokens = text)
include distinct eligible partitions

/-- Where a block is tokenized by lines, each of them is decorated alike in both modes. -/
theorem exists_decoration_of_tokenizedByLines
    (byLines : b.TokenizedByLines tokenizer (options.grammar b)) (member : f ∈ b.fragments) :
    ∃ t, { options with mode := .plain }.decoration tokenizer b f = .ok t ∧
      { options with mode := .joined }.decoration tokenizer b f = .ok t := by
  obtain ⟨rows, areRows, whole⟩ := byLines
  have long : ∀ g ∈ b.fragments, Token.lengthAll (rows g) = g.length := by
    intro g present
    rw [← Token.length_textAll, partitions g.text (rows g) (areRows g present)]
    rfl
  obtain ⟨index, found⟩ := Block.exists_indexOf?_of_mem (List.mem_map_of_mem member)
  obtain ⟨before, g, after, split, rfl, isKey⟩ := Block.exists_split_of_indexOf? found
  have same : g = f := Block.eq_of_key_eq distinct (Block.mem_of_split split) member isKey
  subst same
  refine exists_decoration_of_paths distinct member found eligible partitions ?_
  intro position inside names
  simp only [areRows g member, whole, Option.some.injEq, exists_eq_left',
    pathAll_of_split split long inside]

/-- The one line of a block is decorated alike in both modes. -/
theorem exists_decoration_of_single (single : b.fragments = [f]) :
    ∃ t, { options with mode := .plain }.decoration tokenizer b f = .ok t ∧
      { options with mode := .joined }.decoration tokenizer b f = .ok t := by
  have text : b.text = f.text := by
    rw [Block.text, single]
    rfl
  have first : b.fragments[0]? = some f := by
    rw [single]
    rfl
  have offset : b.offsetAt 0 = 0 := rfl
  refine exists_decoration_of_paths distinct (List.mem_of_getElem? first)
    (Block.indexOf?_of_getElem? distinct first) eligible partitions ?_
  intro position _ names
  rw [text, offset, Nat.zero_add]

/-- **Blocks in both modes.** Where a block is tokenized by lines, or has only one, both modes
decorate it alike. -/
theorem exists_blockDecoration_of_lines
    (lines : b.TokenizedByLines tokenizer (options.grammar b) ∨ b.fragments.length = 1) :
    ∃ texts, { options with mode := .plain }.blockDecoration tokenizer b = .ok texts ∧
      { options with mode := .joined }.blockDecoration tokenizer b = .ok texts := by
  have each : ∀ f ∈ b.fragments,
      ∃ t, { options with mode := .plain }.decoration tokenizer b f = .ok t ∧
        { options with mode := .joined }.decoration tokenizer b f = .ok t := by
    intro f member
    rcases lines with byLines | one
    · exact exists_decoration_of_tokenizedByLines distinct eligible partitions byLines member
    · obtain ⟨g, single⟩ := List.length_eq_one_iff.1 one
      rw [single, List.mem_singleton] at member
      subst member
      exact exists_decoration_of_single distinct eligible partitions single
  obtain ⟨texts, isPlain⟩ := exists_mapM_eq_ok fun f member =>
    (each f member).imp fun _ alike => alike.1
  refine ⟨texts, isPlain, ?_⟩
  rw [← isPlain]
  apply mapM_congr_mem
  intro f member
  obtain ⟨t, plain, joined⟩ := each f member
  exact joined.trans plain.symm

end Lines

end Options

namespace Session

/-- **The two modes agree** on every block that the tokenizer cuts line by line, and on every
block of one line, if tokens always have the text they were made of. Whatever was done
before, with a cache or without, a decorator of either mode gives the same marked lines. -/
theorem modes_agree (tokenizer : Tokenizer) (options : Options) {b : Block}
    (eligible : options.eligible b = true)
    (partitions : ∀ text tokens, tokenizer text (options.grammar b) = some tokens →
      Token.textAll tokens = text)
    (lines : b.TokenizedByLines tokenizer (options.grammar b) ∨ b.fragments.length = 1)
    (cachedPlain cachedJoined : Bool) (actionsPlain actionsJoined : List Action) :
    let plain := (start tokenizer { options with mode := .plain, cached := cachedPlain }).after
      actionsPlain
    let joined := (start tokenizer { options with mode := .joined, cached := cachedJoined }).after
      actionsJoined
    b ∈ plain.pool.blocks → b ∈ joined.pool.blocks →
      ∃ texts, (plain.decorator.decorateBlock b).1 = .ok texts ∧
        (joined.decorator.decorateBlock b).1 = .ok texts := by
  intro plain joined livePlain liveJoined
  have soundPlain : plain.Sound _ _ := (sound_start tokenizer _).after actionsPlain
  have soundJoined : joined.Sound _ _ := (sound_start tokenizer _).after actionsJoined
  have distinct : b.keys.Nodup := (soundPlain.pool.given b livePlain).distinct
  rw [(soundPlain.decorator.decorateBlock soundPlain.pool livePlain).1,
    (soundJoined.decorator.decorateBlock soundJoined.pool liveJoined).1]
  exact Options.exists_blockDecoration_of_lines distinct eligible partitions lines

/-- Two lines that are a keyword each, decorated a second time from the cache. -/
theorem modes_agree_keywords :
    let tokenizer : Tokenizer := fun text _ =>
      if text = "a\nb" then some [.leaf "keyword" none "a", .literal "\n", .leaf "keyword" none "b"]
      else some [.leaf "keyword" none text]
    let b := (Block.code "rust" "a\nb" .full).1
    let actions : List Action := [.edit (.code "rust" "a\nb"), .decorateBlock 0]
    let options : Options := .standard
    let plain := (start tokenizer { options with mode := .plain, cached := false }).after
      [.edit (.code "rust" "a\nb")]
    let joined := (start tokenizer { options with mode := .joined, cached := true }).after actions
    b ∈ plain.pool.blocks ∧ b ∈ joined.pool.blocks ∧
      ∃ texts, (plain.decorator.decorateBlock b).1 = .ok texts ∧
        (joined.decorator.decorateBlock b).1 = .ok texts := by
  intro tokenizer b actions options plain joined
  have livePlain : b ∈ plain.pool.blocks := List.mem_singleton.2 rfl
  have liveJoined : b ∈ joined.pool.blocks := List.mem_singleton.2 rfl
  have partitions : ∀ text tokens, tokenizer text (options.grammar b) = some tokens →
      Token.textAll tokens = text := by
    intro text tokens areTokens
    simp only [tokenizer] at areTokens
    split at areTokens
    · next isWhole =>
      cases areTokens
      rw [isWhole]
      decide
    · cases areTokens
      rw [Token.textAll, Token.textAll, Token.text, String.append_empty]
  have byLines : b.TokenizedByLines tokenizer (options.grammar b) := by
    refine ⟨fun f => [.leaf "keyword" none f.text], ?_, by decide⟩
    intro f member
    have text : f.text ≠ "a\nb" := fun same => f.unbroken (same ▸ by decide)
    exact if_neg text
  exact ⟨livePlain, liveJoined, modes_agree tokenizer options (by decide) partitions (.inl byLines)
    false true _ actions livePlain liveJoined⟩

end Session

end Highlight
