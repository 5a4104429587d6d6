import Highlight.Json.Text

/-!
# Printing JSON

Values are printed compactly, without any white space, or spread over lines,
with two more spaces at the beginning of each line for every level. An empty
array or object stays on its line.
-/

namespace Highlight

set_option autoImplicit false

namespace Json

/-! ## Compactly -/

mutual

/-- A value without white space. -/
def compact : Json → List Char
  | null => ['n', 'u', 'l', 'l']
  | bool true => ['t', 'r', 'u', 'e']
  | bool false => ['f', 'a', 'l', 's', 'e']
  | number spelling => spelling.toList
  | string text => quote text
  | array [] => ['[', ']']
  | array (first :: rest) => '[' :: compact first ++ compactElements rest
  | object [] => [openBrace, closeBrace]
  | object ((name, value) :: rest) =>
      openBrace :: quote name ++ ':' :: compact value ++ compactFields rest

/-- The elements behind the first one, and the end of the array. -/
def compactElements : List Json → List Char
  | [] => [']']
  | value :: rest => ',' :: compact value ++ compactElements rest

/-- The fields behind the first one, and the end of the object. -/
def compactFields : List (String × Json) → List Char
  | [] => [closeBrace]
  | (name, value) :: rest => ',' :: quote name ++ ':' :: compact value ++ compactFields rest

end

/-! ## Spread over lines -/

/-- A line break, and the spaces at the beginning of a line. -/
def newLine (level : Nat) : List Char := '\n' :: List.replicate (2 * level) ' '

mutual

/-- A value whose first line stands at a level. -/
def spread (level : Nat) : Json → List Char
  | null => ['n', 'u', 'l', 'l']
  | bool true => ['t', 'r', 'u', 'e']
  | bool false => ['f', 'a', 'l', 's', 'e']
  | number spelling => spelling.toList
  | string text => quote text
  | array [] => ['[', ']']
  | array (first :: rest) =>
      '[' :: newLine (level + 1) ++ spread (level + 1) first ++ spreadElements level rest
  | object [] => [openBrace, closeBrace]
  | object ((name, value) :: rest) =>
      openBrace :: newLine (level + 1) ++ quote name ++ ':' :: ' ' :: spread (level + 1) value ++
        spreadFields level rest

/-- The elements behind the first one, and the end of the array. -/
def spreadElements (level : Nat) : List Json → List Char
  | [] => newLine level ++ [']']
  | value :: rest =>
      ',' :: newLine (level + 1) ++ spread (level + 1) value ++ spreadElements level rest

/-- The fields behind the first one, and the end of the object. -/
def spreadFields (level : Nat) : List (String × Json) → List Char
  | [] => newLine level ++ [closeBrace]
  | (name, value) :: rest =>
      ',' :: newLine (level + 1) ++ quote name ++ ':' :: ' ' :: spread (level + 1) value ++
        spreadFields level rest

end

end Json

end Highlight
