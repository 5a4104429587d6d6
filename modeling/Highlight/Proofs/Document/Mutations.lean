import Highlight.Proofs.Document.Layout
import Highlight.Proofs.Document.Revision

/-!
# What a mutation changes

A mutation is refused for one of two reasons, which are looked for in this order: the text
for a fragment has a line break in it, or the block has no fragment of the key. A refused
mutation leaves the block and the numbers as they were, and with them the whole program
(`Pool.edit_eq_self_of_untouched`).

A mutation that is not refused changes one block and nothing else (`Pool.Mutates`). The block
keeps its key, its kind and its data and gets a new revision. Its row of fragments is the old
one with a fragment put in, left out, or given another line in its place.

Marks are only ever put on copies of fragments, so no fragment in a block has any
(`Pool.unmarked_run`), and none are lost when a fragment gets another line.
-/

namespace Highlight

set_option autoImplicit false

namespace Block

variable {b : Block} {key : FragmentKey} {text : String} {supply : Supply}

/-! ## Adding -/

theorem add_eq_error_iff {row : Fragment → List Fragment} :
    (b.add text row supply).1 = .error .lineBreakInFragment ↔ lineBreak ∈ text.toList := by
  rcases em (lineBreak ∈ text.toList) with broken | unbroken
  · rw [add_of_broken broken]
    exact iff_of_true rfl broken
  · rw [add_of_unbroken unbroken]
    exact iff_of_false (fun isError => by cases isError) unbroken

/-! ## Fragments told by their key -/

/-- A key of a block cuts the row of fragments around the only fragment of that key. -/
theorem exists_split_of_mem (distinct : b.keys.Nodup) (member : key ∈ b.keys) :
    ∃ before f behind, b.fragments = before ++ f :: behind ∧ f.key = key ∧
      ∀ g ∈ before ++ behind, g.key ≠ key := by
  obtain ⟨f, isIn, rfl⟩ := List.mem_map.1 member
  obtain ⟨before, behind, split⟩ := List.append_of_mem isIn
  refine ⟨before, f, behind, split, rfl, fun g among same => ?_⟩
  rw [keys, split, List.map_append, List.map_cons, List.nodup_middle, ← List.map_append] at distinct
  exact (List.nodup_cons.1 distinct).1 (List.mem_map.2 ⟨g, among, same⟩)

/-- The fragment of an index that was found is there. -/
theorem getElem?_of_indexOf? {index : Nat} (found : b.indexOf? key = some index) :
    ∃ f, b.fragments[index]? = some f := by
  obtain ⟨inside, _⟩ := List.findIdx?_eq_some_iff_getElem.1 found
  exact ⟨_, List.getElem?_eq_getElem inside⟩

theorem remove_eq_none_iff : (b.remove key supply).1 = none ↔ key ∉ b.keys := by
  rw [← indexOf?_eq_none_iff]
  cases found : b.indexOf? key with
  | none =>
      rw [remove_of_indexOf?_eq_none found]
      exact iff_of_true rfl rfl
  | some index =>
      obtain ⟨f, isF⟩ := getElem?_of_indexOf? found
      rw [remove_of_indexOf?_eq_some found, isF]
      exact iff_of_false (Option.some_ne_none _) (Option.some_ne_none _)

theorem setText_eq_lineBreak_iff :
    (b.setText key text supply).1 = .error .lineBreakInFragment ↔ lineBreak ∈ text.toList := by
  rcases em (lineBreak ∈ text.toList) with broken | unbroken
  · rw [setText_of_broken broken]
    exact iff_of_true rfl broken
  · refine iff_of_false ?_ unbroken
    cases found : b.indexOf? key with
    | none =>
        rw [setText_of_indexOf?_eq_none unbroken found]
        exact fun isError => by cases isError
    | some index =>
        rw [setText_of_indexOf?_eq_some unbroken found]
        exact fun isError => by cases isError

/-- A line break is found before a missing key. -/
theorem setText_eq_notInBlock_iff :
    (b.setText key text supply).1 = .error (.fragmentNotInBlock key b.key) ↔
      lineBreak ∉ text.toList ∧ key ∉ b.keys := by
  rw [← indexOf?_eq_none_iff]
  rcases em (lineBreak ∈ text.toList) with broken | unbroken
  · rw [setText_of_broken broken]
    exact iff_of_false (fun isError => by cases isError) fun both => both.1 broken
  · cases found : b.indexOf? key with
    | none =>
        rw [setText_of_indexOf?_eq_none unbroken found]
        exact iff_of_true rfl ⟨unbroken, rfl⟩
    | some index =>
        rw [setText_of_indexOf?_eq_some unbroken found]
        exact iff_of_false (fun isError => by cases isError) fun both =>
          Option.some_ne_none _ both.2

section Split

variable {before behind : List Fragment} {f : Fragment}
  (split : b.fragments = before ++ f :: behind)

theorem replaceLine_split (line : Line) (first : ∀ g ∈ before, g.key ≠ f.key)
    (behind : List Fragment) :
    replaceLine f.key line (before ++ f :: behind) = before ++ ⟨f.key, line, []⟩ :: behind := by
  induction before with
  | nil => exact if_pos rfl
  | cons g rest ih =>
      rw [List.cons_append, replaceLine, if_neg (first g List.mem_cons_self),
        ih fun h among => first h (List.mem_cons_of_mem _ among), List.cons_append]

include split

/-- The first fragment of a key is found where it stands. -/
theorem indexOf?_of_split (first : ∀ g ∈ before, g.key ≠ f.key) :
    b.indexOf? f.key = some before.length := by
  rw [indexOf?, split, List.findIdx?_append, List.findIdx?_eq_none_iff.2 fun g among => by
    simpa using first g among, Option.none_or, List.findIdx?_cons, if_pos (decide_eq_true rfl)]
  exact congrArg some (Nat.zero_add _)

/-- Removing leaves what stands before the fragment and behind it. -/
theorem remove_of_split (first : ∀ g ∈ before, g.key ≠ f.key) (supply : Supply) :
    b.remove f.key supply =
      (some f, { b with fragments := before ++ behind, revision := ⟨supply.next⟩ },
        supply.rest) := by
  have isF : b.fragments[before.length]? = some f := by
    rw [split, List.getElem?_append_right (Nat.le_refl _), Nat.sub_self]
    rfl
  have erased : b.fragments.eraseIdx before.length = before ++ behind := by
    rw [split, List.eraseIdx_append_of_length_le (Nat.le_refl _), Nat.sub_self]
    rfl
  rw [remove_of_indexOf?_eq_some (indexOf?_of_split split first), isF, erased]

/-- Another text puts its line in the place of the fragment's. -/
theorem setText_of_split (first : ∀ g ∈ before, g.key ≠ f.key)
    (unbroken : lineBreak ∉ text.toList) (supply : Supply) :
    b.setText f.key text supply =
      (.ok (),
        { b with
          fragments := before ++ ⟨f.key, ⟨text, unbroken⟩, []⟩ :: behind
          revision := ⟨supply.next⟩ },
        supply.rest) := by
  have replaced := replaceLine_split ⟨text, unbroken⟩ first behind
  rw [← split] at replaced
  rw [setText_of_indexOf?_eq_some unbroken (indexOf?_of_split split first), replaced]

end Split

/-! ## No marks in blocks -/

/-- No fragment of the block has marks. -/
def Unmarked (b : Block) : Prop := ∀ f ∈ b.fragments, f.marks = []

theorem marks_ofLines (lines : List Line) (supply : Supply) :
    ∀ f ∈ (Fragment.ofLines lines supply).1, f.marks = [] := by
  induction lines generalizing supply with
  | nil => exact fun f member => absurd member List.not_mem_nil
  | cons line rest ih =>
      intro f member
      rcases List.mem_cons.1 member with rfl | later
      · rfl
      · exact ih supply.rest f later

theorem unmarked_ofSource (kind source : String) (supply : Supply) :
    (ofSource kind source supply).1.Unmarked :=
  marks_ofLines (linesOf source) supply.rest.rest

theorem Unmarked.replaceLine {fragments : List Fragment} (unmarked : ∀ f ∈ fragments, f.marks = [])
    (line : Line) : ∀ f ∈ Block.replaceLine key line fragments, f.marks = [] := by
  induction fragments with
  | nil => exact unmarked
  | cons g rest ih =>
      obtain ⟨own, others⟩ := List.forall_mem_cons.1 unmarked
      rw [Block.replaceLine]
      split
      · exact List.forall_mem_cons.2 ⟨rfl, others⟩
      · exact List.forall_mem_cons.2 ⟨own, ih others⟩

theorem Unmarked.add {row : Fragment → List Fragment} (unmarked : b.Unmarked)
    (others : ∀ f, (row f).Perm (f :: b.fragments)) :
    (b.add text row supply).2.1.Unmarked := by
  rcases em (lineBreak ∈ text.toList) with broken | unbroken
  · rw [add_of_broken broken]
    exact unmarked
  · rw [add_of_unbroken unbroken]
    intro g member
    rcases List.mem_cons.1 ((others _).mem_iff.1 member) with rfl | old
    · rfl
    · exact unmarked g old

/-- A mutation leaves a block without marks, also if it is refused. -/
theorem Unmarked.apply (unmarked : b.Unmarked) (m : Mutation) :
    (m.apply b supply).2.1.Unmarked := by
  cases m with
  | setData name value => exact unmarked
  | push text => exact unmarked.add fun f => List.perm_append_singleton f b.fragments
  | insert place text =>
      refine unmarked.add fun f => List.perm_middle.trans ?_
      rw [List.take_append_drop]
  | remove key =>
      show (b.remove key supply).2.1.Unmarked
      cases found : b.indexOf? key with
      | none =>
          rw [remove_of_indexOf?_eq_none found]
          exact unmarked
      | some index =>
          rw [remove_of_indexOf?_eq_some found]
          exact fun g member => unmarked g ((List.eraseIdx_sublist _ index).mem member)
  | setText key text =>
      show (b.setText key text supply).2.1.Unmarked
      rcases em (lineBreak ∈ text.toList) with broken | unbroken
      · rw [setText_of_broken broken]
        exact unmarked
      · cases found : b.indexOf? key with
        | none =>
            rw [setText_of_indexOf?_eq_none unbroken found]
            exact unmarked
        | some index =>
            rw [setText_of_indexOf?_eq_some unbroken found]
            exact Unmarked.replaceLine unmarked _

end Block

namespace Pool

/-- What holds of all blocks still holds after a change that keeps it. -/
theorem forall_change {p : Pool} {P : Block → Prop} {index : Nat}
    {f : Block → Supply → Block × Supply} (all : ∀ b ∈ p.blocks, P b)
    (changes : ∀ b supply, P b → P (f b supply).1) : ∀ b ∈ (p.change index f).blocks, P b := by
  rw [change]
  split
  · exact all
  · next b at' =>
    intro d member
    rcases List.mem_or_eq_of_mem_set member with old | rfl
    · exact all d old
    · exact changes b p.supply (all b (List.mem_of_getElem? at'))

/-- No edit puts marks on fragments of blocks. -/
theorem unmarked_edit {p : Pool} (unmarked : ∀ b ∈ p.blocks, b.Unmarked) (e : Edit) :
    ∀ b ∈ (p.edit e).blocks, b.Unmarked := by
  have mutated (index : Nat) (m : Mutation) : ∀ b ∈ (p.edit (m.edit index)).blocks, b.Unmarked := by
    rw [m.pool_edit]
    exact forall_change unmarked fun b supply own => own.apply m
  have added (made : Block × Supply) (own : made.1.Unmarked) :
      ∀ b ∈ (p.add made).blocks, b.Unmarked :=
    List.forall_mem_append.2 ⟨unmarked, List.forall_mem_singleton.2 own⟩
  cases e with
  | new kind => exact added _ fun f member => absurd member List.not_mem_nil
  | ofSource kind source => exact added _ (Block.unmarked_ofSource kind source p.supply)
  | code grammar source =>
      exact added _ (Block.unmarked_ofSource Block.codeKind source p.supply)
  | fragment text => exact unmarked
  | copy index =>
      refine List.forall_mem_append.2 ⟨unmarked, fun b copied => unmarked b ?_⟩
      exact List.mem_of_getElem? (Option.mem_toList.1 copied)
  | drop index =>
      exact fun b member => unmarked b ((List.eraseIdx_sublist p.blocks index).mem member)
  | withData index name value => exact forall_change unmarked fun b supply own => own
  | setData index name value => exact mutated index (.setData name value)
  | push index text => exact mutated index (.push text)
  | insert index place text => exact mutated index (.insert place text)
  | remove index key => exact mutated index (.remove key)
  | setText index key text => exact mutated index (.setText key text)

/-- **No fragment of a block ever gets marks.** -/
theorem unmarked_run {p : Pool} (unmarked : ∀ b ∈ p.blocks, b.Unmarked) (edits : List Edit) :
    ∀ b ∈ (p.run edits).blocks, b.Unmarked := by
  induction edits generalizing p with
  | nil => exact unmarked
  | cons e rest ih => exact ih (unmarked_edit unmarked e)

theorem unmarked_of_live {edits : List Edit} {b : Block}
    (live : b ∈ (empty.run edits).blocks) : b.Unmarked :=
  unmarked_run (p := empty) (fun _ member => absurd member List.not_mem_nil) edits b live

/-! ## Refused or done -/

section Mutation

variable {p : Pool} {index : Nat} {b c : Block} {m : Mutation} {supply : Supply}

/-- **A mutation that leaves the block and the supply leaves the program.** -/
theorem edit_eq_self_of_untouched (at' : p.blocks[index]? = some b)
    (untouched : (m.apply b p.supply).2 = (b, p.supply)) : p.edit (m.edit index) = p := by
  obtain ⟨inside, rfl⟩ := List.getElem?_eq_some_iff.1 at'
  simp only [Mutation.pool_edit, change, at', untouched, List.set_getElem_self]

/-- After some edits, a mutation has put one block in the place of another, which kept its
key, kind and data and got a revision above every number issued before. -/
structure Mutates (edits : List Edit) (index : Nat) (m : Mutation) (b c : Block) : Prop where
  blocks : (empty.run (edits ++ [m.edit index])).blocks = (empty.run edits).blocks.set index c
  key : c.key = b.key
  kind : c.kind = b.kind
  data : c.data = b.data
  revision : ∀ n, Issued edits n → n < c.revision.number

variable {edits : List Edit} (at' : (empty.run edits).blocks[index]? = some b)
include at'

theorem run_eq_self_of_untouched
    (untouched : (m.apply b (empty.run edits).supply).2 = (b, (empty.run edits).supply)) :
    empty.run (edits ++ [m.edit index]) = empty.run edits := by
  rw [run_concat, edit_eq_self_of_untouched at' untouched]

/-- A mutation that changes nothing but the fragments and the revision. -/
theorem mutates_of_apply (done : m.apply b (empty.run edits).supply = (true, c, supply))
    (same : c = { b with fragments := c.fragments, revision := c.revision }) :
    Mutates edits index m b c := by
  have renews := m.renews_of_apply ((sound_run edits).given b (List.mem_of_getElem? at')) done
  refine ⟨?_, renews.key, ?_, ?_, ?_⟩
  · simp only [run_concat, Mutation.pool_edit, change, at', done]
  · rw [same]
  · rw [same]
  · exact fun n issued => Nat.lt_of_lt_of_le issued.lt_next renews.renewed.fresh

end Mutation

/-! ## The row of fragments -/

section Row

variable (edits : List Edit) (index : Nat) (b : Block)

/-- A mutation that adds a fragment to the row. It is refused for a line break in the text,
and then leaves everything as it was. Otherwise the fragment gets a key that was never issued
and stands where `row` has it. -/
structure Adds (m : Mutation) (text : String)
    (result : Except Fault FragmentKey × Block × Supply) (row : Fragment → List Fragment) :
    Prop where
  refused : result.1 = .error .lineBreakInFragment ↔ lineBreak ∈ text.toList
  untouched : lineBreak ∈ text.toList → result.2 = (b, (empty.run edits).supply) ∧
    empty.run (edits ++ [m.edit index]) = empty.run edits
  added : lineBreak ∉ text.toList → ∃ (f : Fragment) (c : Block) (supply : Supply),
    result = (.ok f.key, c, supply) ∧ Mutates edits index m b c ∧ f.text = text ∧ f.marks = [] ∧
      (∀ n, Issued edits n → n < f.key.number) ∧ c.fragments = row f

/-- Removing a fragment. Without a fragment of the key there is none to give back, and
everything is left as it was. Otherwise the only one is gone, and given back. -/
structure Removes (key : FragmentKey) : Prop where
  refused : (b.remove key (empty.run edits).supply).1 = none ↔ key ∉ b.keys
  untouched : key ∉ b.keys →
    (b.remove key (empty.run edits).supply).2 = (b, (empty.run edits).supply) ∧
      empty.run (edits ++ [.remove index key]) = empty.run edits
  removed : key ∈ b.keys → ∃ (before behind : List Fragment) (f : Fragment) (c : Block)
      (supply : Supply),
    b.remove key (empty.run edits).supply = (some f, c, supply) ∧
      Mutates edits index (.remove key) b c ∧ b.fragments = before ++ f :: behind ∧
      f.key = key ∧ (∀ g ∈ before ++ behind, g.key ≠ key) ∧ c.fragments = before ++ behind

/-- Setting the text of a fragment. It is refused for a line break in the text, and then for a
key that the block does not have, and leaves everything as it was. Otherwise the only fragment
of the key gets another line. -/
structure SetsText (key : FragmentKey) (text : String) : Prop where
  broken : (b.setText key text (empty.run edits).supply).1 = .error .lineBreakInFragment ↔
    lineBreak ∈ text.toList
  absent : (b.setText key text (empty.run edits).supply).1 =
      .error (.fragmentNotInBlock key b.key) ↔
    lineBreak ∉ text.toList ∧ key ∉ b.keys
  untouched : lineBreak ∈ text.toList ∨ key ∉ b.keys →
    (b.setText key text (empty.run edits).supply).2 = (b, (empty.run edits).supply) ∧
      empty.run (edits ++ [.setText index key text]) = empty.run edits
  set : lineBreak ∉ text.toList → key ∈ b.keys → ∃ (before behind : List Fragment)
      (f : Fragment) (line : Line) (c : Block) (supply : Supply),
    b.setText key text (empty.run edits).supply = (.ok (), c, supply) ∧
      Mutates edits index (.setText key text) b c ∧ b.fragments = before ++ f :: behind ∧
      f.key = key ∧ (∀ g ∈ before ++ behind, g.key ≠ key) ∧ line.text = text ∧
      c.fragments = before ++ { f with line := line } :: behind

variable {edits index b} (at' : (empty.run edits).blocks[index]? = some b)
include at'

theorem adds {m : Mutation} (text : String) (row : Fragment → List Fragment)
    (apply : m.apply b (empty.run edits).supply =
      (b.add text row (empty.run edits).supply).map Except.isOk id) :
    Adds edits index b m text (b.add text row (empty.run edits).supply) row := by
  refine ⟨Block.add_eq_error_iff, fun broken => ?_, fun unbroken => ?_⟩
  · rw [Block.add_of_broken broken] at apply ⊢
    exact ⟨rfl, run_eq_self_of_untouched at' (congrArg Prod.snd apply)⟩
  · rw [Block.add_of_unbroken unbroken] at apply ⊢
    refine ⟨⟨⟨_⟩, ⟨text, unbroken⟩, []⟩, _, _, rfl, mutates_of_apply at' apply rfl, rfl, rfl, ?_,
      rfl⟩
    exact fun n issued => issued.lt_next

theorem removes (key : FragmentKey) : Removes edits index b key := by
  refine ⟨Block.remove_eq_none_iff, fun absent => ?_, fun member => ?_⟩
  · have untouched : (b.remove key (empty.run edits).supply).2 =
        (b, (empty.run edits).supply) := by
      rw [Block.remove_of_indexOf?_eq_none (Block.indexOf?_eq_none_iff.2 absent)]
    exact ⟨untouched, run_eq_self_of_untouched at' (m := .remove key) untouched⟩
  · have distinct := ((sound_run edits).given b (List.mem_of_getElem? at')).distinct
    obtain ⟨before, f, behind, split, rfl, others⟩ := Block.exists_split_of_mem distinct member
    have removed := Block.remove_of_split split
      (fun g among => others g (List.mem_append_left _ among)) (empty.run edits).supply
    have applied := congrArg (Prod.map Option.isSome id) removed
    exact ⟨before, behind, f, _, _, removed, mutates_of_apply at' (m := .remove f.key) applied rfl,
      split, rfl, others, rfl⟩

theorem setsText (key : FragmentKey) (text : String) : SetsText edits index b key text := by
  refine ⟨Block.setText_eq_lineBreak_iff, Block.setText_eq_notInBlock_iff, fun refused => ?_,
    fun unbroken member => ?_⟩
  · have untouched : (b.setText key text (empty.run edits).supply).2 =
        (b, (empty.run edits).supply) := by
      rcases em (lineBreak ∈ text.toList) with broken | unbroken
      · rw [Block.setText_of_broken broken]
      · rw [Block.setText_of_indexOf?_eq_none unbroken
          (Block.indexOf?_eq_none_iff.2 (refused.resolve_left unbroken))]
    exact ⟨untouched, run_eq_self_of_untouched at' (m := .setText key text) untouched⟩
  · have live := List.mem_of_getElem? at'
    obtain ⟨before, f, behind, split, rfl, others⟩ :=
      Block.exists_split_of_mem ((sound_run edits).given b live).distinct member
    have set := Block.setText_of_split split
      (fun g among => others g (List.mem_append_left _ among)) unbroken (empty.run edits).supply
    have applied := congrArg (Prod.map Except.isOk id) set
    refine ⟨before, behind, f, ⟨text, unbroken⟩, _, _, set, mutates_of_apply at' applied rfl,
      split, rfl, others, rfl, ?_⟩
    rw [unmarked_of_live live f (Block.mem_of_split split)]

/-- **Mutations are atomic and local.** Of every block that a program holds, each of the four
mutations of its fragments is refused exactly for its reasons, with nothing changed, and
otherwise does what it says to this row of fragments and gives the block a new revision. -/
theorem mutations_atomic_local :
    (∀ text, Adds edits index b (.push text) text (b.push text (empty.run edits).supply)
      (b.fragments ++ [·])) ∧
    (∀ place text, Adds edits index b (.insert place text) text
      (b.insert place text (empty.run edits).supply) fun f =>
        b.fragments.take (min place b.fragments.length) ++
          f :: b.fragments.drop (min place b.fragments.length)) ∧
    (∀ key, Removes edits index b key) ∧
    ∀ key text, SetsText edits index b key text :=
  ⟨fun text => adds at' text _ rfl, fun _ text => adds at' text _ rfl, removes at', setsText at'⟩

end Row

/-- A copy of a block of two lines refuses a line break and a key it does not have. Another
text for its second line is the copy's alone. -/
theorem mutations_atomic_local_of_copy :
    let edits : List Edit := [.code "rust" "a\nb", .copy 0]
    empty.run (edits ++ [.setText 1 ⟨4⟩ "x\n"]) = empty.run edits ∧
      empty.run (edits ++ [.remove 1 ⟨5⟩]) = empty.run edits ∧
      ∃ b c, Mutates edits 1 (.setText ⟨4⟩ "x") b c ∧ b.text = "a\nb" ∧ c.text = "a\nx" ∧
        (empty.run (edits ++ [.setText 1 ⟨4⟩ "x"])).blocks = [b, c] := by
  intro edits
  let b := (Block.code "rust" "a\nb" .full).1
  let c : Block := { b with
    fragments := [⟨⟨3⟩, ⟨"a", by decide⟩, []⟩, ⟨⟨4⟩, ⟨"x", by decide⟩, []⟩]
    revision := ⟨5⟩ }
  have at' : (empty.run edits).blocks[1]? = some b := by decide
  have after : (empty.run (edits ++ [.setText 1 ⟨4⟩ "x"])).blocks = [b, c] := by decide
  obtain ⟨_, _, removes, sets⟩ := mutations_atomic_local at'
  obtain ⟨_, _, _, _, d, _, _, mutates, _⟩ := (sets ⟨4⟩ "x").set (by decide) (by decide)
  have both : [b, d] = [b, c] := mutates.blocks.symm.trans after
  obtain rfl : d = c := (List.cons.inj (List.cons.inj both).2).1
  have broken := (sets ⟨4⟩ "x\n").untouched (Or.inl (by decide))
  have absent := (removes ⟨5⟩).untouched (by decide)
  exact ⟨broken.2, absent.2, b, c, mutates, by decide, by decide, after⟩

end Pool

end Highlight
