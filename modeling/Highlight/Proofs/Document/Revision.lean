import Highlight.Proofs.Document.Pool

/-!
# What a revision tells

A number is issued in a run of edits if at some time of the run a block had it as its
key, as its revision or as the key of a fragment, or if it went to a fragment made by
itself (`Pool.Issued`). Blocks that are gone and fragments that were removed count. All
issued numbers lie below those that are left (`Pool.Issued.lt_next`).

Taken together: blocks of the same revision are in the same state, whichever way their
copies went, and the revision that a mutation gives is greater than every number issued
before (`Pool.revision_tells_state`).
-/

namespace Highlight

set_option autoImplicit false

/-! ## The numbers of a run -/

/-- The numbers on a block. -/
def Block.numbers (b : Block) : List Nat :=
  b.key.number :: b.revision.number :: b.keys.map FragmentKey.number

theorem Block.Given.lt_next {b : Block} {supply : Supply} (given : b.Given supply) {n : Nat}
    (member : n ∈ b.numbers) : n < supply.next := by
  simp only [numbers, List.mem_cons, List.mem_map] at member
  rcases member with rfl | rfl | ⟨key, present, rfl⟩
  · exact given.key
  · exact given.revision
  · exact given.fragments key present

namespace Pool

theorem run_concat (p : Pool) (edits : List Edit) (e : Edit) :
    p.run (edits ++ [e]) = (p.run edits).edit e := by
  simp only [run, List.foldl_append, List.foldl_cons, List.foldl_nil]

/-- The numbers that were given out in a run from the beginning: those of its blocks at
any time, and those of fragments made by themselves. -/
inductive Issued : List Edit → Nat → Prop where
  | block {edits : List Edit} {b : Block} {n : Nat} (live : b ∈ (empty.run edits).blocks)
      (member : n ∈ b.numbers) : Issued edits n
  | fragment {edits : List Edit} {text : String} {f : Fragment}
      (made : (Fragment.ofText text (empty.run edits).supply).1 = .ok f) :
      Issued (edits ++ [.fragment text]) f.key.number
  | earlier {edits : List Edit} {n : Nat} (issued : Issued edits n) (e : Edit) :
      Issued (edits ++ [e]) n

theorem sound_run (edits : List Edit) : (empty.run edits).Sound := sound_empty.run edits

/-- Issued numbers are not among those that are left. -/
theorem Issued.lt_next {edits : List Edit} {n : Nat} (issued : Issued edits n) :
    n < (empty.run edits).supply.next := by
  induction issued with
  | block live member => exact ((sound_run _).given _ live).lt_next member
  | @fragment edits text f made =>
      obtain ⟨number, taken⟩ := Fragment.ofText_eq_of_ok made
      rw [run_concat, edit, taken, Supply.next_rest, number]
      exact Nat.lt_succ_self _
  | @earlier edits n _ e ih =>
      have grows := ((sound_run edits).follows_edit e).supply
      rw [run_concat]
      exact Nat.lt_of_lt_of_le ih grows

/-- A mutation puts the block that it leaves in the place of the old one. -/
theorem getElem?_edit_mutation {p : Pool} {index : Nat} {b : Block} (m : Mutation)
    (at' : p.blocks[index]? = some b) :
    (p.edit (m.edit index)).blocks[index]? = some (m.apply b p.supply).2.1 := by
  have inside : index < p.blocks.length := (List.getElem?_eq_some_iff.1 at').1
  simp only [Mutation.pool_edit, change, at']
  exact List.getElem?_set_self inside

/-- **A revision tells a state.** After any edits, blocks of the same revision have the
same key, kind, fragments and text. A mutation that is not refused keeps the key of its
block and gives it a revision above every number issued before. -/
theorem revision_tells_state (edits : List Edit) :
    (∀ b ∈ (empty.run edits).blocks, ∀ c ∈ (empty.run edits).blocks, b.revision = c.revision →
      b.key = c.key ∧ b.kind = c.kind ∧ b.fragments = c.fragments ∧ b.text = c.text) ∧
    ∀ (index : Nat) (b c : Block) (m : Mutation) (supply : Supply),
      (empty.run edits).blocks[index]? = some b →
      m.apply b (empty.run edits).supply = (true, c, supply) →
        (empty.run (edits ++ [m.edit index])).blocks[index]? = some c ∧ c.key = b.key ∧
          ∀ n, Issued edits n → n < c.revision.number := by
  refine ⟨?_, ?_⟩
  · intro b liveB c liveC equal
    have same := (sound_run edits).sameState b liveB c liveC equal
    exact ⟨same.key, same.kind, same.fragments, same.text⟩
  · intro index b c m supply at' done
    have given := (sound_run edits).given b (List.mem_of_getElem? at')
    have renews := m.renews_of_apply given done
    refine ⟨?_, renews.key, ?_⟩
    · rw [run_concat, getElem?_edit_mutation m at', done]
    · intro n issued
      exact Nat.lt_of_lt_of_le issued.lt_next renews.renewed.fresh

/-- Of two copies of a block, one gets another text, and then its revision is above the
key of a fragment that the program has made in between. -/
theorem revision_tells_state_of_copies :
    let edits : List Edit := [.code "rust" "x", .copy 0, .fragment "y"]
    ∃ b ∈ (empty.run edits).blocks, ∃ c ∈ (empty.run edits).blocks,
      b.revision = c.revision ∧ b.text = c.text ∧
        ∃ d, (empty.run (edits ++ [.setText 1 ⟨3⟩ "z"])).blocks[1]? = some d ∧
          d.key = b.key ∧ Issued edits 4 ∧ 4 < d.revision.number := by
  intro edits
  let b := (Block.code "rust" "x" .full).1
  let c : Block := { b with fragments := [⟨⟨3⟩, ⟨"z", by decide⟩, []⟩], revision := ⟨5⟩ }
  have live : b ∈ (empty.run edits).blocks := List.mem_cons_self
  obtain ⟨same, mutated⟩ := revision_tells_state edits
  have issued : Issued edits 4 :=
    @Issued.fragment [.code "rust" "x", .copy 0] "y" ⟨⟨4⟩, ⟨"y", by decide⟩, []⟩ rfl
  obtain ⟨after, key, above⟩ := mutated 1 b c (.setText ⟨3⟩ "z") ⟨6⟩ (by decide) (by decide)
  exact ⟨b, live, b, live, rfl, (same b live b live rfl).2.2.2, c, after, key, issued,
    above 4 issued⟩

end Pool

end Highlight
