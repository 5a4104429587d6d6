/-!
# The range of double precision

A number in double precision has 53 significant binary digits and an exponent
that ends at 1024. A decimal number is out of range when rounding takes it to
infinity, that is from half a step above the greatest number on.
-/

namespace Highlight

set_option autoImplicit false

/-- The least number that rounding takes to infinity. -/
def doubleLimit : Nat := Nat.pow 2 1024 - Nat.pow 2 970

/-- A whole number rounded to 53 significant binary digits, a tie to the even
neighbour. -/
def roundToDouble (n : Nat) : Nat :=
  if n < 0x20000000000000 then n
  else
    let dropped := n.log2 - 52
    let kept := n >>> dropped
    let rest := n - (kept <<< dropped)
    let half := 1 <<< (dropped - 1)
    let rounded := if half < rest ∨ (rest = half ∧ kept % 2 = 1) then kept + 1 else kept
    rounded <<< dropped

end Highlight
