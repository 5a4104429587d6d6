/-!
# Keys and revisions

Blocks, fragments and states of blocks are told apart by numbers. All numbers
come from one supply, which gives out each number once and in ascending order,
so two things with the same number are the same thing, copies included.
-/

namespace Highlight

set_option autoImplicit false

/-- What tells a block from all other blocks. -/
structure BlockKey where
  number : Nat
deriving DecidableEq

/-- What tells a fragment from all other fragments. -/
structure FragmentKey where
  number : Nat
deriving DecidableEq

/-- What tells a state of a block from all other states of blocks. -/
structure Revision where
  number : Nat
deriving DecidableEq

/-- The name of a block in messages. -/
def BlockKey.text (key : BlockKey) : String := "block-" ++ toString key.number

/-- The name of a fragment in messages. -/
def FragmentKey.text (key : FragmentKey) : String := "fragment-" ++ toString key.number

/-- The numbers that have not been given out: `next` and all above it. -/
structure Supply where
  next : Nat
deriving DecidableEq

/-- The supply from which nothing has been taken. -/
def Supply.full : Supply := ⟨1⟩

/-- A supply without its next number. -/
def Supply.rest (supply : Supply) : Supply := ⟨supply.next + 1⟩

end Highlight
