import Highlight.Document.Key

/-!
# Faults

What can go wrong with blocks and their decoration.
-/

namespace Highlight

set_option autoImplicit false

/-- Why a block could not be changed or decorated. -/
inductive Fault where
  /-- There is a line break in the text for a fragment. -/
  | lineBreakInFragment
  /-- The block has no fragment of that key. -/
  | fragmentNotInBlock (fragment : FragmentKey) (block : BlockKey)
  /-- The tokens are longer or shorter than the text they were made of. -/
  | lengthMismatch (covered expected : Nat)
deriving DecidableEq

/-- The wording of a fault. -/
def Fault.message : Fault → String
  | lineBreakInFragment => "Fragment text must not contain line breaks"
  | fragmentNotInBlock fragment block => fragment.text ++ " does not belong to " ++ block.text
  | lengthMismatch covered expected =>
      "Tokens cover " ++ toString covered ++ " characters but " ++ toString expected ++
        " were tokenized"

end Highlight
