import Highlight.Dictionary
import Highlight.Grammar.Basic
import Highlight.Grammar.FileName

/-!
# Registries of grammars

A registry knows grammars by name and leads to them from their aliases and from
the extensions of files. Letter case never matters. A later grammar of the same
name, alias or extension takes the place of an earlier one, and an alias leads
away from a grammar whose own name it is.
-/

namespace Highlight

set_option autoImplicit false

/-- Grammars by name, and the names that aliases and extensions lead to. -/
structure Registry where
  grammars : Dictionary Grammar
  aliases : Dictionary String
  extensions : Dictionary String

/-- What turns a text into tokens, given the name of a grammar. The answer is
missing where the grammar is not known. -/
abbrev Tokenizer := String → String → Option (List Token)

namespace Registry

/-- The registry without grammars. -/
def empty : Registry := ⟨∅, ∅, ∅⟩

/-- Every name of a list made to lead to the same target. -/
def leadAll (target : String) (names : List String) (d : Dictionary String) : Dictionary String :=
  names.foldl (fun d name => d.put (lowercaseText name) target) d

/-- The registry with one more grammar. -/
def add (r : Registry) (g : Grammar) : Registry :=
  let name := lowercaseText g.name
  ⟨r.grammars.put name g, leadAll name g.aliases r.aliases,
    leadAll name g.extensions r.extensions⟩

/-- The registry of some grammars, added in order. -/
def ofList (grammars : List Grammar) : Registry := grammars.foldl add empty

/-- The grammar of a name or alias. -/
def get? (r : Registry) (name : String) : Option Grammar :=
  let name := lowercaseText name
  r.grammars.get? ((r.aliases.get? name).getD name)

/-- The name of the grammar that a file is meant for, going by its extension. -/
def detect? (r : Registry) (path : String) : Option String :=
  match fileExtension? path with
  | none => none
  | some extension => r.extensions.get? (lowercaseText extension)

/-- The names of all grammars, in order. -/
def names (r : Registry) : List String := r.grammars.names

/-- A registry tokenizes by the grammars it knows. -/
def tokenizer (r : Registry) : Tokenizer := fun text name =>
  (r.get? name).map fun g => g.tokenize text

end Registry

end Highlight
