/-!
# Mappings of characters in stretches

The case mappings send whole stretches of characters to other stretches at a
fixed distance. In the older alphabets each capital is followed by its small
letter, and there a stretch takes every second character only.
-/

namespace Highlight

set_option autoImplicit false

/-- The characters from `first` to `last`, every one or every second as `step`
says, each sent to the character at the distance `shift`. -/
structure CaseRun where
  first : Nat
  last : Nat
  step : Nat
  shift : Int

namespace CaseRun

/-- Whether a code point is one of those the stretch sends somewhere. -/
def holds (run : CaseRun) (code : Nat) : Bool :=
  decide (run.first ≤ code) && decide (code ≤ run.last) && (code - run.first) % run.step == 0

/-- Where the stretch sends one of its code points. -/
def image (run : CaseRun) (code : Nat) : Nat := (Int.ofNat code + run.shift).toNat

/-- The code point that the stretch sends to the given one, if there is one. -/
def preimage? (run : CaseRun) (code : Nat) : Option Nat :=
  let source := (Int.ofNat code - run.shift).toNat
  if run.holds source then some source else none

/-- The image of a code point under ascending stretches; a code point in none
stays where it is. -/
def imageIn : List CaseRun → Nat → Nat
  | [], code => code
  | run :: rest, code =>
      if code < run.first then code
      else if run.holds code then run.image code
      else imageIn rest code

end CaseRun

end Highlight
