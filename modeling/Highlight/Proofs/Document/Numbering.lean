import Highlight.Document.Block
import Mathlib.Data.List.Nodup

/-!
# The numbers of a block

A block carries numbers from the supply: its key, the keys of its fragments and
its revision. All of them were given out before, and no two of its fragments
have the same key (`Block.Given`).

Making a block gives it a revision that had not been given out (`Block.Renewed`).
Other data under a name, set while a block is being made, leave its state as it is
(`Block.SameState`).

A mutation is a change of a block that exists (`Mutation`). It is refused, and then
leaves the block and the supply as they were, or it gives the block a revision that
had not been given out (`Mutation.refused_or_renews`). This is so for each of them and
whatever their arguments.
-/

namespace Highlight

set_option autoImplicit false

namespace Block

/-- The keys of a block's fragments, in order. -/
def keys (b : Block) : List FragmentKey := b.fragments.map Fragment.key

/-- The numbers of a block were given out by a supply, and its fragments have
different keys. -/
structure Given (b : Block) (supply : Supply) : Prop where
  key : b.key.number < supply.next
  revision : b.revision.number < supply.next
  fragments : ∀ key ∈ b.keys, key.number < supply.next
  distinct : b.keys.Nodup

/-- A block whose state was numbered on the way from one supply to another. -/
structure Renewed (before : Supply) (b : Block) (after : Supply) : Prop where
  given : b.Given after
  fresh : before.next ≤ b.revision.number

/-- Two blocks that can differ in nothing but their data. -/
structure SameState (b c : Block) : Prop where
  key : b.key = c.key
  kind : b.kind = c.kind
  fragments : b.fragments = c.fragments
  revision : b.revision = c.revision

namespace SameState

theorem refl (b : Block) : b.SameState b := ⟨rfl, rfl, rfl, rfl⟩

theorem symm {b c : Block} (same : b.SameState c) : c.SameState b :=
  ⟨same.key.symm, same.kind.symm, same.fragments.symm, same.revision.symm⟩

theorem trans {b c d : Block} (first : b.SameState c) (second : c.SameState d) :
    b.SameState d :=
  ⟨first.key.trans second.key, first.kind.trans second.kind,
    first.fragments.trans second.fragments, first.revision.trans second.revision⟩

/-- Blocks in the same state have the same text. -/
theorem text {b c : Block} (same : b.SameState c) : b.text = c.text := by
  simp only [Block.text, same.fragments]

end SameState

theorem Given.mono {b : Block} {supply later : Supply} (given : b.Given supply)
    (le : supply.next ≤ later.next) : b.Given later :=
  ⟨Nat.lt_of_lt_of_le given.key le, Nat.lt_of_lt_of_le given.revision le,
    fun key member => Nat.lt_of_lt_of_le (given.fragments key member) le, given.distinct⟩

/-- A block in the state of one whose numbers were given out. -/
theorem Given.of_sameState {b c : Block} {supply : Supply} (given : b.Given supply)
    (same : b.SameState c) : c.Given supply := by
  have keys : c.keys = b.keys := by simp only [Block.keys, same.fragments]
  refine ⟨same.key ▸ given.key, same.revision ▸ given.revision, ?_, keys ▸ given.distinct⟩
  rw [keys]
  exact given.fragments

theorem Renewed.supply_le {before after : Supply} {b : Block} (renewed : Renewed before b after) :
    before.next ≤ after.next :=
  Nat.le_of_lt (Nat.lt_of_le_of_lt renewed.fresh renewed.given.revision)

end Block

@[simp]
theorem Supply.next_rest (supply : Supply) : supply.rest.next = supply.next + 1 := rfl

/-! ## Making blocks -/

namespace Fragment

/-- A fragment made by itself takes the next number as its key. -/
theorem ofText_eq_of_ok {text : String} {supply : Supply} {f : Fragment}
    (made : (ofText text supply).1 = .ok f) :
    f.key.number = supply.next ∧ (ofText text supply).2 = supply.rest := by
  simp only [ofText] at made ⊢
  split at made
  · cases made
  · cases made
    exact ⟨rfl, rfl⟩

theorem le_ofText (text : String) (supply : Supply) :
    supply.next ≤ (ofText text supply).2.next := by
  rw [ofText]
  split
  · exact Nat.le_refl _
  · exact Nat.le_succ _

/-- The fragments for some lines take a number for each line, in order. -/
theorem numbers_ofLines (lines : List Line) (supply : Supply) :
    (ofLines lines supply).1.map (·.key.number) = List.range' supply.next lines.length := by
  induction lines generalizing supply with
  | nil => rfl
  | cons line rest ih =>
      simp only [ofLines, ofLine, List.map_cons, ih, List.length_cons, List.range'_succ]
      rfl

theorem next_ofLines (lines : List Line) (supply : Supply) :
    (ofLines lines supply).2.next = supply.next + lines.length := by
  induction lines generalizing supply with
  | nil => rfl
  | cons line rest ih =>
      simp only [ofLines, ofLine, ih, Supply.next_rest, List.length_cons]
      omega

end Fragment

namespace Block

theorem renewed_new (kind : String) (supply : Supply) :
    Renewed supply (new kind supply).1 (new kind supply).2 := by
  refine ⟨⟨?_, ?_, fun _ member => absurd member List.not_mem_nil, List.nodup_nil⟩, ?_⟩
  · simp only [new, Supply.next_rest]
    omega
  · simp only [new, Supply.next_rest]
    omega
  · exact Nat.le_succ _

theorem numbers_keys (b : Block) :
    b.keys.map FragmentKey.number = b.fragments.map (·.key.number) := by
  simp only [keys, List.map_map]
  rfl

theorem renewed_ofSource (kind source : String) (supply : Supply) :
    Renewed supply (ofSource kind source supply).1 (ofSource kind source supply).2 := by
  have numbers : (ofSource kind source supply).1.keys.map FragmentKey.number =
      List.range' (supply.next + 2) (linesOf source).length :=
    (numbers_keys _).trans (Fragment.numbers_ofLines (linesOf source) supply.rest.rest)
  have next : (ofSource kind source supply).2.next = supply.next + 2 + (linesOf source).length :=
    Fragment.next_ofLines (linesOf source) supply.rest.rest
  refine ⟨⟨?_, ?_, ?_, ?_⟩, Nat.le_succ _⟩
  · rw [next]
    show supply.next < _
    omega
  · rw [next]
    show supply.next + 1 < _
    omega
  · intro key member
    have given := numbers ▸ List.mem_map_of_mem (f := FragmentKey.number) member
    rw [next]
    exact (List.mem_range'_1.1 given).2
  · refine List.Nodup.of_map FragmentKey.number ?_
    rw [numbers]
    exact List.nodup_range'

/-- Other data do not count among the numbers of a block. -/
theorem sameState_withData (b : Block) (name value : String) :
    b.SameState (b.withData name value) := ⟨rfl, rfl, rfl, rfl⟩

theorem renewed_code (grammar source : String) (supply : Supply) :
    Renewed supply (code grammar source supply).1 (code grammar source supply).2 := by
  have made := renewed_ofSource codeKind source supply
  exact ⟨made.given.of_sameState (sameState_withData _ grammarName grammar), made.fresh⟩

/-! ## Changing blocks -/

/-- Another line for a fragment changes no key. -/
theorem keys_replaceLine (key : FragmentKey) (line : Line) (fragments : List Fragment) :
    (replaceLine key line fragments).map Fragment.key = fragments.map Fragment.key := by
  induction fragments with
  | nil => rfl
  | cons f rest ih =>
      simp only [replaceLine]
      split
      · rfl
      · simp only [List.map_cons, ih]

section Changes

variable {b : Block} {supply : Supply}

/-- A text with a line break in it is not added. -/
theorem add_of_broken {text : String} (broken : lineBreak ∈ text.toList)
    (row : Fragment → List Fragment) :
    b.add text row supply = (.error .lineBreakInFragment, b, supply) := by
  simp only [add, Fragment.ofText, Line.ofString?_eq_none_iff.2 broken]

/-- A line is added in a fragment with the next number as its key. -/
theorem add_of_unbroken {text : String} (unbroken : lineBreak ∉ text.toList)
    (row : Fragment → List Fragment) :
    b.add text row supply =
      (.ok ⟨supply.next⟩,
        { b with
          fragments := row ⟨⟨supply.next⟩, ⟨text, unbroken⟩, []⟩
          revision := ⟨supply.rest.next⟩ },
        supply.rest.rest) := by
  simp only [add, Fragment.ofText, Line.ofString?, dif_pos unbroken]
  rfl

theorem remove_of_indexOf?_eq_none {key : FragmentKey} (absent : b.indexOf? key = none) :
    b.remove key supply = (none, b, supply) := by
  simp only [remove, absent]

theorem remove_of_indexOf?_eq_some {key : FragmentKey} {index : Nat}
    (found : b.indexOf? key = some index) :
    b.remove key supply =
      (b.fragments[index]?,
        { b with fragments := b.fragments.eraseIdx index, revision := ⟨supply.next⟩ },
        supply.rest) := by
  simp only [remove, found]
  rfl

theorem setText_of_broken {key : FragmentKey} {text : String}
    (broken : lineBreak ∈ text.toList) :
    b.setText key text supply = (.error .lineBreakInFragment, b, supply) := by
  simp only [setText, Line.ofString?_eq_none_iff.2 broken]

theorem setText_of_indexOf?_eq_none {key : FragmentKey} {text : String}
    (unbroken : lineBreak ∉ text.toList) (absent : b.indexOf? key = none) :
    b.setText key text supply = (.error (.fragmentNotInBlock key b.key), b, supply) := by
  simp only [setText, Line.ofString?, dif_pos unbroken, absent]

theorem setText_of_indexOf?_eq_some {key : FragmentKey} {text : String} {index : Nat}
    (unbroken : lineBreak ∉ text.toList) (found : b.indexOf? key = some index) :
    b.setText key text supply =
      (.ok (),
        { b with
          fragments := replaceLine key ⟨text, unbroken⟩ b.fragments
          revision := ⟨supply.next⟩ },
        supply.rest) := by
  simp only [setText, Line.ofString?, dif_pos unbroken, found]
  rfl

variable (given : b.Given supply)
include given

theorem Given.renewed_setData (name value : String) :
    Renewed supply (b.setData name value supply).1 (b.setData name value supply).2 :=
  ⟨⟨Nat.lt_succ_of_lt given.key, Nat.lt_succ_self _,
    fun key member => Nat.lt_succ_of_lt (given.fragments key member), given.distinct⟩,
    Nat.le_refl _⟩

/-- A change that takes its revision from the supply after it has left the
fragments with other keys. -/
theorem Given.renewed_of_keys {c : Block} (before : Supply) (key : c.key = b.key)
    (revision : c.revision.number = before.next) (le : supply.next ≤ before.next)
    (keys : ∀ key ∈ c.keys, key ∈ b.keys ∨ key.number < before.next)
    (distinct : c.keys.Nodup) : Renewed supply c before.rest := by
  have earlier : supply.next < before.rest.next := Nat.lt_succ_of_le le
  refine ⟨⟨?_, ?_, ?_, distinct⟩, ?_⟩
  · rw [key]
    exact Nat.lt_trans given.key earlier
  · rw [revision]
    exact Nat.lt_succ_self _
  · intro key member
    rcases keys key member with old | new
    · exact Nat.lt_trans (given.fragments key old) earlier
    · exact Nat.lt_succ_of_lt new
  · rw [revision]
    exact le

/-- A fragment with the next number as its key, put somewhere among the others. -/
theorem Given.renewed_add {f : Fragment} (key : f.key = ⟨supply.next⟩) {row : List Fragment}
    (others : row.Perm (f :: b.fragments)) :
    Renewed supply { b with fragments := row, revision := ⟨supply.rest.next⟩ }
      supply.rest.rest := by
  have keys : (row.map Fragment.key).Perm (⟨supply.next⟩ :: b.keys) := by
    rw [← key]
    exact others.map Fragment.key
  have unused : (⟨supply.next⟩ : FragmentKey) ∉ b.keys := fun member =>
    Nat.lt_irrefl _ (given.fragments _ member)
  refine given.renewed_of_keys supply.rest rfl rfl (Nat.le_succ _) ?_ ?_
  · intro key member
    rcases List.mem_cons.1 (keys.mem_iff.1 member) with rfl | old
    · exact Or.inr (Nat.lt_succ_self _)
    · exact Or.inl old
  · exact keys.nodup_iff.2 (List.nodup_cons.2 ⟨unused, given.distinct⟩)

/-- Some of the fragments left out. -/
theorem Given.renewed_of_sublist {row : List Fragment} (fewer : row.Sublist b.fragments) :
    Renewed supply { b with fragments := row, revision := ⟨supply.next⟩ } supply.rest :=
  given.renewed_of_keys supply rfl rfl (Nat.le_refl _)
    (fun _ member => Or.inl ((fewer.map Fragment.key).mem member))
    (given.distinct.sublist (fewer.map Fragment.key))

/-- Other fragments under the same keys. -/
theorem Given.renewed_of_sameKeys {row : List Fragment} (same : row.map Fragment.key = b.keys) :
    Renewed supply { b with fragments := row, revision := ⟨supply.next⟩ } supply.rest := by
  refine given.renewed_of_keys supply rfl rfl (Nat.le_refl _) ?_ ?_
  · show ∀ key ∈ row.map Fragment.key, _
    rw [same]
    exact fun _ member => Or.inl member
  · show (row.map Fragment.key).Nodup
    rw [same]
    exact given.distinct

end Changes

end Block

/-! ## Mutations -/

/-- A change that gives a block a new state, unless it is refused. -/
inductive Mutation where
  | setData (name value : String)
  | push (text : String)
  | insert (place : Nat) (text : String)
  | remove (key : FragmentKey)
  | setText (key : FragmentKey) (text : String)

namespace Mutation

/-- Whether a mutation is done, with the block and the supply that it leaves. -/
def apply (b : Block) (supply : Supply) : Mutation → Bool × Block × Supply
  | setData name value => (true, b.setData name value supply)
  | push text => (b.push text supply).map Except.isOk id
  | insert place text => (b.insert place text supply).map Except.isOk id
  | remove key => (b.remove key supply).map Option.isSome id
  | setText key text => (b.setText key text supply).map Except.isOk id

/-- A block renewed under its key. -/
structure Renews (b : Block) (supply : Supply) (c : Block) (after : Supply) : Prop where
  renewed : Block.Renewed supply c after
  key : c.key = b.key

variable {b : Block} {supply : Supply}

theorem refused_or_renews_of_add (given : b.Given supply) (text : String)
    {row : Fragment → List Fragment} (others : ∀ f, (row f).Perm (f :: b.fragments)) :
    (b.add text row supply).map Except.isOk id = (false, b, supply) ∨
      ∃ c after, (b.add text row supply).map Except.isOk id = (true, c, after) ∧
        Renews b supply c after := by
  rcases em (lineBreak ∈ text.toList) with broken | unbroken
  · rw [Block.add_of_broken broken]
    exact Or.inl rfl
  · rw [Block.add_of_unbroken unbroken]
    exact Or.inr ⟨_, _, rfl, given.renewed_add rfl (others _), rfl⟩

/-- **A mutation is refused or renews its block.** If it is refused, the block and the supply
are left as they were. -/
theorem refused_or_renews (given : b.Given supply) (m : Mutation) :
    m.apply b supply = (false, b, supply) ∨
      ∃ c after, m.apply b supply = (true, c, after) ∧ Renews b supply c after := by
  cases m with
  | setData name value => exact Or.inr ⟨_, _, rfl, given.renewed_setData name value, rfl⟩
  | push text =>
      exact refused_or_renews_of_add given text fun f => List.perm_append_singleton f b.fragments
  | insert place text =>
      refine refused_or_renews_of_add given text fun f => List.perm_middle.trans ?_
      rw [List.take_append_drop]
  | remove key =>
      rw [apply]
      cases found : b.indexOf? key with
      | none =>
          rw [Block.remove_of_indexOf?_eq_none found]
          exact Or.inl rfl
      | some index =>
          obtain ⟨inside, _⟩ := List.findIdx?_eq_some_iff_getElem.1 found
          rw [Block.remove_of_indexOf?_eq_some found, List.getElem?_eq_getElem inside]
          exact Or.inr ⟨_, _, rfl, given.renewed_of_sublist (List.eraseIdx_sublist _ index), rfl⟩
  | setText key text =>
      rw [apply]
      rcases em (lineBreak ∈ text.toList) with broken | unbroken
      · rw [Block.setText_of_broken broken]
        exact Or.inl rfl
      · cases found : b.indexOf? key with
        | none =>
            rw [Block.setText_of_indexOf?_eq_none unbroken found]
            exact Or.inl rfl
        | some index =>
            rw [Block.setText_of_indexOf?_eq_some unbroken found]
            exact Or.inr ⟨_, _, rfl,
              given.renewed_of_sameKeys (Block.keys_replaceLine key _ b.fragments), rfl⟩

theorem renews_of_apply {m : Mutation} {c : Block} {after : Supply} (given : b.Given supply)
    (done : m.apply b supply = (true, c, after)) : Renews b supply c after := by
  rcases m.refused_or_renews given with refused | ⟨c, after, isDone, renews⟩
  · rw [refused] at done
    cases done
  · rw [isDone] at done
    cases done
    exact renews

end Mutation

end Highlight
