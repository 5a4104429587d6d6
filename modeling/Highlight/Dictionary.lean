import Highlight.Text.Order

/-!
# Dictionaries

A dictionary keeps a value for each of some names. Its entries ascend by name,
so every dictionary lists its names in order and two dictionaries with the same
values under the same names are equal.
-/

namespace Highlight

set_option autoImplicit false

/-- Entries with one more, in its place; an entry of the same name is
replaced. -/
def putEntry {α : Type} (name : String) (value : α) : List (String × α) → List (String × α)
  | [] => [(name, value)]
  | entry :: rest =>
      if name < entry.1 then (name, value) :: entry :: rest
      else if name = entry.1 then (name, value) :: rest
      else entry :: putEntry name value rest

/-- The value of the first entry of a name. -/
def findEntry {α : Type} (name : String) : List (String × α) → Option α
  | [] => none
  | entry :: rest => if entry.1 = name then some entry.2 else findEntry name rest

theorem mem_putEntry {α : Type} {name : String} {value : α} {entries : List (String × α)}
    {entry : String × α} (member : entry ∈ putEntry name value entries) :
    entry = (name, value) ∨ entry ∈ entries := by
  induction entries with
  | nil => simpa [putEntry] using member
  | cons head rest ih =>
    simp only [putEntry] at member
    split at member
    · exact List.mem_cons.1 member
    · split at member
      · rcases List.mem_cons.1 member with rfl | member
        · exact Or.inl rfl
        · exact Or.inr (List.mem_cons_of_mem _ member)
      · rcases List.mem_cons.1 member with rfl | member
        · exact Or.inr List.mem_cons_self
        · exact (ih member).imp_right (List.mem_cons_of_mem _)

theorem pairwise_putEntry {α : Type} {name : String} {value : α} {entries : List (String × α)}
    (ascending : entries.Pairwise (·.1 < ·.1)) :
    (putEntry name value entries).Pairwise (·.1 < ·.1) := by
  induction entries with
  | nil => simp [putEntry]
  | cons head rest ih =>
    have tail := List.pairwise_cons.1 ascending
    simp only [putEntry]
    split
    · next less =>
      refine List.pairwise_cons.2 ⟨?_, ascending⟩
      intro entry member
      rcases List.mem_cons.1 member with rfl | member
      · exact less
      · exact String.lt_trans less (tail.1 entry member)
    · next notLess =>
      split
      · next same => exact List.pairwise_cons.2 ⟨fun e m => same ▸ tail.1 e m, tail.2⟩
      · next different =>
        refine List.pairwise_cons.2 ⟨?_, ih tail.2⟩
        intro entry member
        rcases mem_putEntry member with rfl | member
        · exact ((text_lt_or_eq_or_gt name head.1).resolve_left notLess).resolve_left different
        · exact tail.1 entry member

theorem findEntry_putEntry {α : Type} (name : String) (value : α) (entries : List (String × α))
    (other : String) :
    findEntry other (putEntry name value entries) =
      if other = name then some value else findEntry other entries := by
  induction entries with
  | nil => by_cases same : other = name <;> simp [putEntry, findEntry, same, Ne.symm]
  | cons head rest ih =>
    simp only [putEntry]
    split
    · by_cases same : other = name
      · simp [findEntry, same]
      · simp [findEntry, same, Ne.symm same]
    · split
      · next eq =>
        by_cases same : other = name
        · simp [findEntry, same]
        · simp [findEntry, same, Ne.symm same, ← eq]
      · next different =>
        simp only [findEntry, ih]
        by_cases same : other = name
        · subst same
          simp [Ne.symm different]
        · simp [same]

/-- Values under names. -/
structure Dictionary (α : Type) where
  entries : List (String × α)
  ascending : entries.Pairwise (·.1 < ·.1)
deriving DecidableEq

namespace Dictionary

variable {α : Type}

instance : EmptyCollection (Dictionary α) := ⟨⟨[], List.Pairwise.nil⟩⟩

/-- The value under a name. -/
def get? (d : Dictionary α) (name : String) : Option α := findEntry name d.entries

/-- The dictionary with a value under a name, in place of any value before. -/
def put (d : Dictionary α) (name : String) (value : α) : Dictionary α :=
  ⟨putEntry name value d.entries, pairwise_putEntry d.ascending⟩

/-- The names, in order. -/
def names (d : Dictionary α) : List String := d.entries.map (·.1)

@[simp]
theorem get?_empty (name : String) : (∅ : Dictionary α).get? name = none := rfl

@[simp]
theorem get?_put (d : Dictionary α) (name : String) (value : α) (other : String) :
    (d.put name value).get? other = if other = name then some value else d.get? other :=
  findEntry_putEntry name value d.entries other

end Dictionary

end Highlight
