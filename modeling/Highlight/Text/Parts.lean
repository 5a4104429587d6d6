/-!
# Parts of a text

A separator cuts a text into parts, one more than there are separators. No part
holds the separator (`separator_notMem_of_mem_parts`).
-/

namespace Highlight

set_option autoImplicit false

/-- The stretches of some characters between separators. -/
def parts (separator : Char) : List Char → List (List Char)
  | [] => [[]]
  | c :: rest =>
      if c = separator then [] :: parts separator rest
      else
        match parts separator rest with
        | [] => [[c]]
        | first :: others => (c :: first) :: others

theorem parts_ne_nil (separator : Char) (text : List Char) : parts separator text ≠ [] := by
  cases text with
  | nil => simp [parts]
  | cons c rest =>
    simp only [parts]
    split
    · simp
    · split <;> simp

theorem separator_notMem_of_mem_parts {separator : Char} {text part : List Char}
    (member : part ∈ parts separator text) : separator ∉ part := by
  induction text generalizing part with
  | nil =>
    simp only [parts, List.mem_singleton] at member
    simp [member]
  | cons c rest ih =>
    simp only [parts] at member
    split at member
    · rcases List.mem_cons.1 member with rfl | member
      · exact List.not_mem_nil
      · exact ih member
    · next other =>
      split at member
      · next none => exact absurd none (parts_ne_nil separator rest)
      · next first others found =>
        rcases List.mem_cons.1 member with rfl | member
        · have := ih (found ▸ List.mem_cons_self : first ∈ parts separator rest)
          simp only [List.mem_cons, not_or]
          exact ⟨fun same => other same.symm, this⟩
        · exact ih (found ▸ List.mem_cons_of_mem _ member)

end Highlight
