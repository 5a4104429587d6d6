/-!
# Labels

The label of a piece of text is its lexical path: the categories and aliases of
all the tokens around it, outermost first. Empty names do not count.
-/

namespace Highlight

set_option autoImplicit false

/-- The names on the way from the root of a token tree to a leaf, none of them
empty. -/
structure Label where
  names : List String
deriving DecidableEq

namespace Label

/-- The path of a token below a parent's path. -/
def extend (parent : Option Label) (category : String) (secondName : Option String) : Label :=
  let inherited := match parent with
    | none => []
    | some label => label.names
  ⟨inherited ++ (category :: secondName.toList).filter (· != "")⟩

/-- The names of a path, a space between them. -/
def text (label : Label) : String := String.intercalate " " label.names

end Label

end Highlight
