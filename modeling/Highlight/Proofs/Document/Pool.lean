import Highlight.Proofs.Document.Numbering

/-!
# The blocks of a program

A program makes blocks, copies them, lets go of them and changes each copy by
itself, in any order, and all their numbers come from one supply. A pool is the
supply with the blocks that the program holds at a time. An edit is one thing
done to a pool. An edit of a block puts the block that it leaves in the place of the
old one, whether it was refused or not; an edit that names no block does nothing.

In every pool that edits lead to, the numbers of the blocks were given out, and
blocks of the same revision are in the same state, however their copies were
edited (`Sound`, `Sound.run`). It holds because of what an edit can come to
(`Follows`): every block afterwards is in a state that a block was in before,
but for at most one, whose revision is new.
-/

namespace Highlight

set_option autoImplicit false

/-- The blocks that a program holds, and the numbers that are left. -/
structure Pool where
  supply : Supply
  blocks : List Block

/-- One thing that a program does to its blocks. A block is told by its index. -/
inductive Edit where
  | new (kind : String)
  | ofSource (kind source : String)
  | code (grammar source : String)
  | fragment (text : String)
  | copy (index : Nat)
  | drop (index : Nat)
  | withData (index : Nat) (name value : String)
  | setData (index : Nat) (name value : String)
  | push (index : Nat) (text : String)
  | insert (index place : Nat) (text : String)
  | remove (index : Nat) (key : FragmentKey)
  | setText (index : Nat) (key : FragmentKey) (text : String)

namespace Pool

/-- The pool of a program that has not done anything. -/
def empty : Pool := ⟨.full, []⟩

/-- The pool with one more block, which took its numbers from the supply. -/
def add (p : Pool) (made : Block × Supply) : Pool := ⟨made.2, p.blocks ++ [made.1]⟩

/-- The pool with a change of a block and of the supply, unless there is no block. -/
def change (p : Pool) (index : Nat) (f : Block → Supply → Block × Supply) : Pool :=
  match p.blocks[index]? with
  | none => p
  | some b =>
      let (c, supply) := f b p.supply
      ⟨supply, p.blocks.set index c⟩

/-- The pool after an edit. -/
def edit (p : Pool) : Edit → Pool
  | .new kind => p.add (Block.new kind p.supply)
  | .ofSource kind source => p.add (Block.ofSource kind source p.supply)
  | .code grammar source => p.add (Block.code grammar source p.supply)
  | .fragment text => { p with supply := (Fragment.ofText text p.supply).2 }
  | .copy index => { p with blocks := p.blocks ++ p.blocks[index]?.toList }
  | .drop index => { p with blocks := p.blocks.eraseIdx index }
  | .withData index name value => p.change index fun b supply => (b.withData name value, supply)
  | .setData index name value => p.change index (·.setData name value)
  | .push index text => p.change index fun b supply => (b.push text supply).2
  | .insert index place text => p.change index fun b supply => (b.insert place text supply).2
  | .remove index key => p.change index fun b supply => (b.remove key supply).2
  | .setText index key text => p.change index fun b supply => (b.setText key text supply).2

/-- The pool after some edits, one after the other. -/
def run (p : Pool) (edits : List Edit) : Pool := edits.foldl edit p

/-! ## What an edit comes to -/

/-- What a pool has in common with an earlier one: but for one block with a new
revision, each block is in a state that a block was in before. -/
structure Follows (p q : Pool) : Prop where
  supply : p.supply.next ≤ q.supply.next
  blocks : ∃ made : Option Block, (∀ b, made = some b → Block.Renewed p.supply b q.supply) ∧
    ∀ b ∈ q.blocks, (∃ c ∈ p.blocks, c.SameState b) ∨ made = some b

/-- The numbers of all blocks were given out, and blocks of the same revision are
in the same state. -/
structure Sound (p : Pool) : Prop where
  given : ∀ b ∈ p.blocks, b.Given p.supply
  sameState : ∀ b ∈ p.blocks, ∀ c ∈ p.blocks, b.revision = c.revision → b.SameState c

namespace Follows

variable {p : Pool}

/-- No new state, and only known blocks. -/
theorem of_sameStates {q : Pool} (supply : p.supply.next ≤ q.supply.next)
    (blocks : ∀ b ∈ q.blocks, ∃ c ∈ p.blocks, c.SameState b) : p.Follows q :=
  ⟨supply, none, (fun _ isMade => nomatch isMade), fun b member => Or.inl (blocks b member)⟩

theorem refl (p : Pool) : p.Follows p :=
  of_sameStates (Nat.le_refl _) fun b member => ⟨b, member, .refl b⟩

/-- A block more, which was made with new numbers. -/
theorem add {made : Block × Supply} (renewed : Block.Renewed p.supply made.1 made.2) :
    p.Follows (p.add made) := by
  refine ⟨renewed.supply_le, some made.1, ?_, ?_⟩
  · rintro b ⟨rfl⟩
    exact renewed
  · intro b member
    rcases List.mem_append.1 member with old | new
    · exact Or.inl ⟨b, old, .refl b⟩
    · exact Or.inr (congrArg some (List.mem_singleton.1 new).symm)

/-- A block changed. The change gives it a new state with numbers from the supply
or, taking none, leaves its state. -/
theorem change {index : Nat} {f : Block → Supply → Block × Supply}
    (changes : ∀ b ∈ p.blocks, Block.Renewed p.supply (f b p.supply).1 (f b p.supply).2 ∨
      ((f b p.supply).2 = p.supply ∧ b.SameState (f b p.supply).1)) :
    p.Follows (p.change index f) := by
  unfold Pool.change
  split
  · exact refl p
  · next b at' =>
    have member : b ∈ p.blocks := List.mem_of_getElem? at'
    rcases changes b member with renewed | ⟨untaken, same⟩
    · refine ⟨renewed.supply_le, some (f b p.supply).1, ?_, ?_⟩
      · rintro _ ⟨rfl⟩
        exact renewed
      · intro d present
        rcases List.mem_or_eq_of_mem_set present with old | rfl
        · exact Or.inl ⟨d, old, .refl d⟩
        · exact Or.inr rfl
    · refine of_sameStates (Nat.le_of_eq (congrArg Supply.next untaken.symm)) ?_
      intro d present
      rcases List.mem_or_eq_of_mem_set present with old | rfl
      · exact ⟨d, old, .refl d⟩
      · exact ⟨b, member, same⟩

end Follows

end Pool

/-! ## Mutations as edits -/

/-- The edit that mutates the block at an index. -/
def Mutation.edit (index : Nat) : Mutation → Edit
  | setData name value => .setData index name value
  | push text => .push index text
  | insert place text => .insert index place text
  | remove key => .remove index key
  | setText key text => .setText index key text

theorem Mutation.pool_edit (p : Pool) (index : Nat) (m : Mutation) :
    p.edit (m.edit index) = p.change index fun b supply => (m.apply b supply).2 := by
  cases m <;> rfl

namespace Pool

variable {p : Pool}

theorem Sound.follows_mutation (sound : p.Sound) (index : Nat) (m : Mutation) :
    p.Follows (p.edit (m.edit index)) := by
  rw [m.pool_edit]
  refine Follows.change fun b member => ?_
  rcases m.refused_or_renews (sound.given b member) with refused | ⟨c, after, done, renews⟩
  · rw [refused]
    exact Or.inr ⟨rfl, .refl b⟩
  · rw [done]
    exact Or.inl renews.renewed

/-- **An edit keeps states or makes one new state**, whatever the edit. -/
theorem Sound.follows_edit (sound : p.Sound) (e : Edit) : p.Follows (p.edit e) := by
  cases e with
  | new kind => exact .add (Block.renewed_new kind p.supply)
  | ofSource kind source => exact .add (Block.renewed_ofSource kind source p.supply)
  | code grammar source => exact .add (Block.renewed_code grammar source p.supply)
  | fragment text =>
      exact .of_sameStates (Fragment.le_ofText text p.supply) fun b member => ⟨b, member, .refl b⟩
  | copy index =>
      refine .of_sameStates (Nat.le_refl _) fun b member => ⟨b, ?_, .refl b⟩
      rcases List.mem_append.1 member with old | copied
      · exact old
      · exact List.mem_of_getElem? (Option.mem_toList.1 copied)
  | drop index =>
      exact .of_sameStates (Nat.le_refl _) fun b member =>
        ⟨b, (List.eraseIdx_sublist p.blocks index).mem member, .refl b⟩
  | withData index name value =>
      show p.Follows (p.change index fun b supply => (b.withData name value, supply))
      exact Follows.change fun b _ => Or.inr ⟨rfl, b.sameState_withData name value⟩
  | setData index name value => exact sound.follows_mutation index (.setData name value)
  | push index text => exact sound.follows_mutation index (.push text)
  | insert index place text => exact sound.follows_mutation index (.insert place text)
  | remove index key => exact sound.follows_mutation index (.remove key)
  | setText index key text => exact sound.follows_mutation index (.setText key text)

/-- Soundness is kept. -/
theorem Sound.of_follows {q : Pool} (sound : p.Sound) (follows : p.Follows q) : q.Sound := by
  obtain ⟨made, renewed, blocks⟩ := follows.blocks
  have apart : ∀ c ∈ p.blocks, ∀ b d, c.SameState b → made = some d → b.revision ≠ d.revision := by
    intro c old b d same isMade equal
    have before := (sound.given c old).revision
    have after := (renewed d isMade).fresh
    rw [same.revision, equal] at before
    omega
  refine ⟨?_, ?_⟩
  · intro b member
    rcases blocks b member with ⟨c, old, same⟩ | isMade
    · exact ((sound.given c old).mono follows.supply).of_sameState same
    · exact (renewed b isMade).given
  · intro b memberB d memberD equal
    rcases blocks b memberB with ⟨c, oldC, same⟩ | isMade
    · rcases blocks d memberD with ⟨e, oldE, same'⟩ | isMade'
      · have revisions : c.revision = e.revision :=
          same.revision.trans (equal.trans same'.revision.symm)
        exact same.symm.trans ((sound.sameState c oldC e oldE revisions).trans same')
      · exact absurd equal (apart c oldC b d same isMade')
    · rcases blocks d memberD with ⟨e, oldE, same'⟩ | isMade'
      · exact absurd equal.symm (apart e oldE d b same' isMade)
      · have equal : b = d := Option.some.inj (isMade.symm.trans isMade')
        exact equal ▸ .refl b

theorem sound_empty : empty.Sound :=
  ⟨fun _ member => absurd member List.not_mem_nil, fun _ member => absurd member List.not_mem_nil⟩

theorem Sound.edit (sound : p.Sound) (e : Edit) : (p.edit e).Sound :=
  sound.of_follows (sound.follows_edit e)

/-- Every pool that edits lead to is sound. -/
theorem Sound.run (sound : p.Sound) (edits : List Edit) : (p.run edits).Sound := by
  induction edits generalizing p with
  | nil => exact sound
  | cons e rest ih => exact ih (sound.edit e)

end Pool

end Highlight
