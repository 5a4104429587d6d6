import Highlight.Text.WordCharacter
import Highlight.Text.DecimalDigit
import Highlight.Text.WhiteSpace
import Highlight.Text.CaseFolding

/-!
# Sets of characters

A set is kept as it was described: from single stretches and named properties
by union, intersection and complement. Membership follows the description, so
each way of building a set comes with the law one expects of it and no set is
ever expanded into a list of stretches.

A set can also be closed under case variants. The closure contains a character
exactly when the set contains one of its variants.
-/

namespace Highlight

set_option autoImplicit false

/-- A property of characters with a name. -/
inductive CharProperty where
  | word
  | digit
  | whiteSpace
  | listed (table : CharTable)
deriving DecidableEq

/-- Whether a character has a property. -/
def CharProperty.holds : CharProperty → Char → Bool
  | .word, c => isWordCharacter c
  | .digit, c => isDecimalDigit c
  | .whiteSpace, c => isWhiteSpace c
  | .listed table, c => table.contains c.toNat

/-- A description of a set of characters. -/
inductive CharSet where
  | range (first last : Char)
  | property (p : CharProperty)
  | union (s t : CharSet)
  | inter (s t : CharSet)
  | compl (s : CharSet)
  | anyCase (s : CharSet)
deriving DecidableEq

namespace CharSet

/-- Membership in the described set. -/
def contains : CharSet → Char → Bool
  | range first last, c => decide (first ≤ c) && decide (c ≤ last)
  | property p, c => p.holds c
  | union s t, c => s.contains c || t.contains c
  | inter s t, c => s.contains c && t.contains c
  | compl s, c => !s.contains c
  | anyCase s, c => (caseVariants c).any s.contains

/-- The set of one character. -/
def single (c : Char) : CharSet := range c c

/-- The set of all characters. -/
def all : CharSet := range (Char.ofNat 0) (Char.ofNat 0x10FFFF)

/-- The first 128 characters. -/
def ascii : CharSet := range (Char.ofNat 0) (Char.ofNat 0x7F)

/-- The set without characters. -/
def none : CharSet := compl all

/-- The characters of a list. -/
def ofList : List Char → CharSet
  | [] => none
  | [c] => single c
  | c :: rest => union (single c) (ofList rest)

/-- What at least one set of a list contains. -/
def unions : List CharSet → CharSet
  | [] => none
  | [s] => s
  | s :: rest => union s (unions rest)

/-- What `s` contains and `t` does not. -/
def diff (s t : CharSet) : CharSet := inter s (compl t)

/-- What exactly one of two sets contains. -/
def symmDiff (s t : CharSet) : CharSet := union (diff s t) (diff t s)

/-- Characters of words. -/
def word : CharSet := property .word

/-- Decimal digits. -/
def digit : CharSet := property .digit

/-- White space. -/
def whiteSpace : CharSet := property .whiteSpace

@[simp]
theorem contains_single (c d : Char) : (single c).contains d = decide (d = c) := by
  have antisymm : (c ≤ d ∧ d ≤ c) ↔ d = c := by
    rw [Char.le_def, Char.le_def, Char.ext_iff, ← UInt32.toNat_inj, UInt32.le_iff_toNat_le,
      UInt32.le_iff_toNat_le]
    omega
  simp only [single, contains, ← Bool.decide_and, antisymm]

@[simp]
theorem contains_compl (s : CharSet) (c : Char) : (compl s).contains c = !s.contains c := rfl

@[simp]
theorem contains_union (s t : CharSet) (c : Char) :
    (union s t).contains c = (s.contains c || t.contains c) := rfl

@[simp]
theorem contains_inter (s t : CharSet) (c : Char) :
    (inter s t).contains c = (s.contains c && t.contains c) := rfl

theorem contains_all (c : Char) : all.contains c = true := by
  have low : Char.ofNat 0 ≤ c := by
    rw [Char.le_def, UInt32.le_iff_toNat_le]
    exact Nat.zero_le _
  have high : c ≤ Char.ofNat 0x10FFFF := by
    rw [Char.le_def, UInt32.le_iff_toNat_le]
    have last : (Char.ofNat 0x10FFFF).val.toNat = 0x10FFFF := rfl
    rcases c.valid with small | ⟨_, below⟩
    · exact last ▸ Nat.le_trans (Nat.le_of_lt small) (by decide)
    · exact last ▸ Nat.le_of_lt_succ below
  simp only [all, contains, low, high, decide_true, Bool.and_self]

theorem contains_none (c : Char) : none.contains c = false := by
  rw [none, contains_compl, contains_all, Bool.not_true]

theorem contains_ofList (cs : List Char) (c : Char) : (ofList cs).contains c = decide (c ∈ cs) := by
  induction cs with
  | nil => rw [ofList, contains_none, eq_comm, decide_eq_false_iff_not]; exact List.not_mem_nil
  | cons first rest ih =>
    cases rest with
    | nil => simp only [ofList, contains_single, List.mem_singleton]
    | cons second others =>
      have split : ofList (first :: second :: others) =
          union (single first) (ofList (second :: others)) := rfl
      rw [split, contains_union, contains_single, ih]
      simp only [List.mem_cons, Bool.decide_or]

end CharSet

end Highlight
