import Highlight.Json.Read

/-!
# How deep JSON is nested

The levels of a value are the arrays and objects around its innermost part
(`Json.levels`). What is read within a number of levels has no more of them
(`Json.levels_le_of_readValue`); the three mutual readers are followed together, along the
steps that they may take (`Json.ReadsWithin`). What holds of all values is shown of each
from the values in it (`Json.induction`).
-/

namespace Highlight

set_option autoImplicit false

section Results

variable {ε α β : Type}

/-- A result of two computations in a row comes from results of both. -/
theorem exists_of_bind_eq_ok {x : Except ε α} {f : α → Except ε β} {b : β}
    (isOk : x >>= f = .ok b) : ∃ a, x = .ok a ∧ f a = .ok b := by
  cases x with
  | error fault => cases isOk
  | ok a => exact ⟨a, rfl, isOk⟩

theorem exists_of_map_eq_ok {x : Except ε α} {f : α → β} {b : β} (isOk : x.map f = .ok b) :
    ∃ a, x = .ok a ∧ f a = b := by
  cases x with
  | error fault => cases isOk
  | ok a => exact ⟨a, rfl, Except.ok.inj isOk⟩

end Results

namespace Json

/-- What holds of a value once it holds of the values in it, holds of all values. -/
@[elab_as_elim]
theorem induction {motive : Json → Prop} (null : motive .null) (bool : ∀ b, motive (.bool b))
    (number : ∀ spelling, motive (.number spelling)) (string : ∀ text, motive (.string text))
    (array : ∀ elements, (∀ value ∈ elements, motive value) → motive (.array elements))
    (object : ∀ fields, (∀ field ∈ fields, motive field.2) → motive (.object fields)) (j : Json) :
    motive j := by
  refine @Json.rec motive (fun elements => ∀ value ∈ elements, motive value)
    (fun fields => ∀ field ∈ fields, motive field.2) (fun field => motive field.2)
    null bool number string array object ?_ ?_ ?_ ?_ ?_ j
  · exact fun _ member => absurd member List.not_mem_nil
  · intro first rest here later value member
    rcases List.mem_cons.1 member with rfl | member
    · exact here
    · exact later value member
  · exact fun _ member => absurd member List.not_mem_nil
  · intro first rest here later field member
    rcases List.mem_cons.1 member with rfl | member
    · exact here
    · exact later field member
  · exact fun _ _ holds => holds

mutual

/-- How many arrays and objects stand around the innermost part of a value. -/
def levels : Json → Nat
  | null => 0
  | bool _ => 0
  | number _ => 0
  | string _ => 0
  | array elements => levelsOfElements elements + 1
  | object fields => levelsOfFields fields + 1

/-- The levels of the deepest of some values. -/
def levelsOfElements : List Json → Nat
  | [] => 0
  | value :: rest => max (levels value) (levelsOfElements rest)

/-- The levels of the deepest of the values of some fields. -/
def levelsOfFields : List (String × Json) → Nat
  | [] => 0
  | (_, value) :: rest => max (levels value) (levelsOfFields rest)

end

theorem levelsOfElements_le_iff {elements : List Json} {limit : Nat} :
    levelsOfElements elements ≤ limit ↔ ∀ value ∈ elements, value.levels ≤ limit := by
  induction elements with
  | nil => simp [levelsOfElements]
  | cons value rest ih => rw [levelsOfElements, Nat.max_le, ih, List.forall_mem_cons]

theorem levelsOfFields_le_iff {fields : List (String × Json)} {limit : Nat} :
    levelsOfFields fields ≤ limit ↔ ∀ field ∈ fields, field.2.levels ≤ limit := by
  induction fields with
  | nil => simp [levelsOfFields]
  | cons field rest ih => rw [levelsOfFields, Nat.max_le, ih, List.forall_mem_cons]

/-! ## Reading within some levels -/

theorem levels_of_readScalar {text rest : List Char} {value : Json}
    (isRead : readScalar text = .ok (value, rest)) : value.levels = 0 := by
  unfold readScalar at isRead
  split at isRead
  case h_1 => cases isRead
  case h_7 =>
    split at isRead
    · obtain ⟨after, _, same⟩ := exists_of_map_eq_ok isRead
      cases same
      rfl
    · cases isRead
  all_goals
    obtain ⟨after, _, same⟩ := exists_of_map_eq_ok isRead
    cases same
    rfl

/-- With so many steps, the readers go no deeper than they may. -/
structure ReadsWithin (fuel : Nat) : Prop where
  value : ∀ {levels : Nat} {text rest : List Char} {value : Json},
    readValue fuel levels text = .ok (value, rest) → value.levels ≤ levels
  elements : ∀ {levels : Nat} {first : Bool} {read elements : List Json} {text rest : List Char},
    readElements fuel levels first read text = .ok (elements, rest) →
      (∀ value ∈ read, value.levels ≤ levels) → ∀ value ∈ elements, value.levels ≤ levels
  fields : ∀ {levels : Nat} {first : Bool} {read fields : List (String × Json)}
      {text rest : List Char},
    readFields fuel levels first read text = .ok (fields, rest) →
      (∀ field ∈ read, field.2.levels ≤ levels) → ∀ field ∈ fields, field.2.levels ≤ levels

namespace ReadsWithin

variable {fuel : Nat} (within : ReadsWithin fuel)
include within

theorem value_succ {levels : Nat} {text rest : List Char} {value : Json}
    (isRead : readValue (fuel + 1) levels text = .ok (value, rest)) : value.levels ≤ levels := by
  rw [readValue] at isRead
  split at isRead
  · split at isRead
    · cases isRead
    · next levels =>
      obtain ⟨⟨elements, after⟩, areRead, isOk⟩ := exists_of_bind_eq_ok isRead
      cases isOk
      have inside := within.elements areRead fun _ member => absurd member List.not_mem_nil
      exact Nat.succ_le_succ (levelsOfElements_le_iff.2 inside)
  · split at isRead
    · split at isRead
      · cases isRead
      · next levels =>
        obtain ⟨⟨fields, after⟩, areRead, isOk⟩ := exists_of_bind_eq_ok isRead
        cases isOk
        have inside := within.fields areRead fun _ member => absurd member List.not_mem_nil
        exact Nat.succ_le_succ (levelsOfFields_le_iff.2 inside)
    · rw [levels_of_readScalar isRead]
      exact Nat.zero_le _
  · cases isRead

theorem elements_succ {levels : Nat} {first : Bool} {read elements : List Json}
    {text rest : List Char}
    (areRead : readElements (fuel + 1) levels first read text = .ok (elements, rest))
    (before : ∀ value ∈ read, value.levels ≤ levels) :
    ∀ value ∈ elements, value.levels ≤ levels := by
  rw [readElements] at areRead
  obtain ⟨next, _, areRead⟩ := exists_of_bind_eq_ok areRead
  cases next with
  | done behind =>
      cases areRead
      exact fun value member => before value (List.mem_reverse.1 member)
  | member text =>
      obtain ⟨⟨value, behind⟩, isRead, areRead⟩ := exists_of_bind_eq_ok areRead
      refine within.elements areRead ?_
      intro other member
      rcases List.mem_cons.1 member with rfl | earlier
      · exact within.value isRead
      · exact before other earlier

theorem fields_succ {levels : Nat} {first : Bool} {read fields : List (String × Json)}
    {text rest : List Char}
    (areRead : readFields (fuel + 1) levels first read text = .ok (fields, rest))
    (before : ∀ field ∈ read, field.2.levels ≤ levels) :
    ∀ field ∈ fields, field.2.levels ≤ levels := by
  rw [readFields] at areRead
  obtain ⟨next, _, areRead⟩ := exists_of_bind_eq_ok areRead
  cases next with
  | done behind =>
      cases areRead
      exact fun field member => before field (List.mem_reverse.1 member)
  | member text =>
      obtain ⟨⟨name, behind⟩, _, areRead⟩ := exists_of_bind_eq_ok areRead
      obtain ⟨behind, _, areRead⟩ := exists_of_bind_eq_ok areRead
      obtain ⟨⟨value, behind⟩, isRead, areRead⟩ := exists_of_bind_eq_ok areRead
      refine within.fields areRead ?_
      intro other member
      rcases List.mem_cons.1 member with rfl | earlier
      · exact within.value isRead
      · exact before other earlier

end ReadsWithin

theorem readsWithin (fuel : Nat) : ReadsWithin fuel := by
  induction fuel with
  | zero =>
      refine ⟨?_, ?_, ?_⟩
      · intro _ _ _ _ isRead
        rw [readValue] at isRead
        cases isRead
      · intro _ _ _ _ _ _ areRead
        rw [readElements] at areRead
        cases areRead
      · intro _ _ _ _ _ _ areRead
        rw [readFields] at areRead
        cases areRead
  | succ fuel ih => exact ⟨ih.value_succ, ih.elements_succ, ih.fields_succ⟩

/-- **What is read within some levels** has no more of them. -/
theorem levels_le_of_readValue {fuel levels : Nat} {text rest : List Char} {value : Json}
    (isRead : readValue fuel levels text = .ok (value, rest)) : value.levels ≤ levels :=
  (readsWithin fuel).value isRead

end Json

end Highlight
