/-!
# The order of texts

Texts are ordered character by character, by code point.
-/

namespace Highlight

set_option autoImplicit false

/-- Of two different texts one comes first. -/
theorem text_lt_or_eq_or_gt (a b : String) : a < b ∨ a = b ∨ b < a := by
  by_cases less : a < b
  · exact Or.inl less
  · by_cases greater : b < a
    · exact Or.inr (Or.inr greater)
    · exact Or.inr (Or.inl (String.le_antisymm (String.not_lt.1 greater) (String.not_lt.1 less)))

end Highlight
