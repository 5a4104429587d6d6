import Highlight.Text.Order
import Highlight.Token.Label

/-!
# Marks

A mark is attached to characters and says how they are to be shown. Its kind
names the concern that put it there, and its class name is what a renderer
sees. Marks of different concerns live on the same character side by side; the
ones for lexical categories have the kind `syntax-token`.

The marks of one character form a set. A set is kept as the ascending list of
its members, by kind first and class name second, which makes equal sets equal
values.
-/

namespace Highlight

set_option autoImplicit false

/-- A way of showing a character, and the concern it belongs to. -/
structure Mark where
  kind : String
  className : String
deriving DecidableEq

namespace Mark

/-- The kind of the marks for lexical categories. -/
def tokenKind : String := "syntax-token"

/-- The mark for a lexical path, behind a common first class unless that is
empty. -/
def token (classPrefix : String) (label : Label) : Mark :=
  ⟨tokenKind, if classPrefix = "" then label.text else classPrefix ++ " " ++ label.text⟩

/-- Whether the mark stands for a lexical category. -/
def isToken (m : Mark) : Bool := m.kind == tokenKind

@[simp]
theorem isToken_token (classPrefix : String) (label : Label) :
    (token classPrefix label).isToken = true := by
  simp only [isToken, token, beq_self_eq_true]

/-! ## Order -/

/-- Marks are ordered by kind, and by class name within a kind. -/
def Before (m n : Mark) : Prop :=
  m.kind < n.kind ∨ (m.kind = n.kind ∧ m.className < n.className)

instance : LT Mark := ⟨Before⟩

instance (m n : Mark) : Decidable (m < n) := inferInstanceAs (Decidable (_ ∨ _))

theorem lt_trans {l m n : Mark} (first : l < m) (second : m < n) : l < n := by
  rcases first with kind₁ | ⟨kind₁, class₁⟩ <;> rcases second with kind₂ | ⟨kind₂, class₂⟩
  · exact Or.inl (String.lt_trans kind₁ kind₂)
  · exact Or.inl (kind₂ ▸ kind₁)
  · exact Or.inl (kind₁ ▸ kind₂)
  · exact Or.inr ⟨kind₁.trans kind₂, String.lt_trans class₁ class₂⟩

theorem lt_irrefl (m : Mark) : ¬ m < m := by
  rintro (kind | ⟨_, class'⟩)
  · exact String.lt_irrefl _ kind
  · exact String.lt_irrefl _ class'

/-- Of two different marks one comes first. -/
theorem lt_or_eq_or_gt (m n : Mark) : m < n ∨ m = n ∨ n < m := by
  rcases text_lt_or_eq_or_gt m.kind n.kind with kind | kind | kind
  · exact Or.inl (Or.inl kind)
  · rcases text_lt_or_eq_or_gt m.className n.className with name | name | name
    · exact Or.inl (Or.inr ⟨kind, name⟩)
    · exact Or.inr (Or.inl (by cases m; cases n; simp_all))
    · exact Or.inr (Or.inr (Or.inr ⟨kind.symm, name⟩))
  · exact Or.inr (Or.inr (Or.inl kind))

end Mark

/-! ## Sets of marks -/

/-- A list of marks with one more at its place, unless it is there already. -/
def insertMark (m : Mark) : List Mark → List Mark
  | [] => [m]
  | n :: rest =>
      if m < n then m :: n :: rest
      else if m = n then n :: rest
      else n :: insertMark m rest

@[simp]
theorem mem_insertMark {m n : Mark} {marks : List Mark} :
    n ∈ insertMark m marks ↔ n = m ∨ n ∈ marks := by
  induction marks with
  | nil => simp [insertMark]
  | cons k rest ih =>
    simp only [insertMark]
    split
    · simp
    · split
      · next same => simp [same]
      · simp only [List.mem_cons, ih]
        exact or_left_comm

theorem pairwise_insertMark {m : Mark} {marks : List Mark} (ascending : marks.Pairwise (· < ·)) :
    (insertMark m marks).Pairwise (· < ·) := by
  induction marks with
  | nil => simp [insertMark]
  | cons k rest ih =>
    have tail := List.pairwise_cons.1 ascending
    simp only [insertMark]
    split
    · next less =>
      refine List.pairwise_cons.2 ⟨?_, ascending⟩
      intro n member
      rcases List.mem_cons.1 member with rfl | member
      · exact less
      · exact Mark.lt_trans less (tail.1 n member)
    · next notLess =>
      split
      · exact ascending
      · next different =>
        refine List.pairwise_cons.2 ⟨?_, ih tail.2⟩
        intro n member
        rcases mem_insertMark.1 member with rfl | member
        · exact ((Mark.lt_or_eq_or_gt n k).resolve_left notLess).resolve_left different
        · exact tail.1 n member

/-- A set of marks. -/
structure MarkSet where
  marks : List Mark
  ascending : marks.Pairwise (· < ·)
deriving DecidableEq

namespace MarkSet

instance : Membership Mark MarkSet := ⟨fun s m => m ∈ s.marks⟩

instance : EmptyCollection MarkSet := ⟨⟨[], List.Pairwise.nil⟩⟩

instance (m : Mark) (s : MarkSet) : Decidable (m ∈ s) := inferInstanceAs (Decidable (m ∈ s.marks))

/-- The set with one more mark. -/
def insert (s : MarkSet) (m : Mark) : MarkSet :=
  ⟨insertMark m s.marks, pairwise_insertMark s.ascending⟩

@[simp]
theorem mem_insert {s : MarkSet} {m n : Mark} : n ∈ s.insert m ↔ n = m ∨ n ∈ s :=
  mem_insertMark

@[simp]
theorem not_mem_empty (m : Mark) : ¬ m ∈ (∅ : MarkSet) := List.not_mem_nil

/-- The first mark that stands for a lexical category. -/
def tokenMark? (s : MarkSet) : Option Mark := s.marks.find? Mark.isToken

end MarkSet

end Highlight
