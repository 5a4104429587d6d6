import Highlight.Text.Lowercase
import Highlight.Text.Parts

/-!
# Extensions of file names

The parts of a path stand between slashes; empty parts and single dots mean
nothing. The last part is the name of the file, unless it is the double dot. The
extension of a name is what follows its last dot, but a dot at the beginning of
the name does not begin an extension.
-/

namespace Highlight

set_option autoImplicit false

/-- The name of the file that a path leads to. -/
def fileName? (path : String) : Option (List Char) :=
  match ((parts '/' path.toList).filter fun part => part ≠ [] ∧ part ≠ ['.']).getLast? with
  | none => none
  | some name => if name = ['.', '.'] then none else some name

/-- The extension of the file that a path leads to. -/
def fileExtension? (path : String) : Option String :=
  match fileName? path with
  | none => none
  | some name =>
      let reversed := name.reverse
      match reversed.dropWhile (· != '.') with
      | [] => none
      | [_] => none
      | _ => some (String.ofList (reversed.takeWhile (· != '.')).reverse)

end Highlight
