import Highlight.Text.Parts
import Highlight.Text.Utf8

/-!
# Files

A stock of files knows what stands at some paths below a directory; every
directory on the way to one of them is there as well. What lies outside the
directory is not known, except that there are directories above it.
-/

namespace Highlight

set_option autoImplicit false

/-- Why a file cannot be read as text. -/
inductive FileFault where
  | notFound
  | notDirectory
  | isDirectory
  | nameTooLong
  | notText
  /-- Another reason, in the words of the system. -/
  | other (reason : String)
deriving DecidableEq

/-- The wording of a fault. -/
def FileFault.message (fault : FileFault) : String :=
  "I/O error: " ++
    match fault with
    | notFound => "No such file or directory (os error 2)"
    | notDirectory => "Not a directory (os error 20)"
    | isDirectory => "Is a directory (os error 21)"
    | nameTooLong => "File name too long (os error 36)"
    | notText => "stream did not contain valid UTF-8"
    | other reason => reason

/-- What stands at a path. -/
inductive FileEntry where
  | file (bytes : List UInt8)
  | directory
deriving DecidableEq

/-- The text of what stands at a path. -/
def FileEntry.text : FileEntry → Except FileFault String
  | directory => .error .isDirectory
  | file bytes =>
      match textOf? bytes with
      | some text => .ok text
      | none => .error .notText

/-- The text of what may stand at a path. -/
def FileEntry.textOf : Option FileEntry → Except FileFault String
  | none => .error .notFound
  | some entry => entry.text

/-- A file that holds a text. -/
def FileEntry.ofText (text : String) : FileEntry := .file text.toUTF8.toList

/-- What stands at some paths, given by their parts. -/
structure Files where
  entries : List (List String × FileEntry)

namespace Files

/-- The greatest number of bytes in a name. -/
def nameLimit : Nat := 255

/-- What stands at a path of names. -/
def entry? (files : Files) (path : List String) : Option FileEntry :=
  match files.entries.find? (·.1 = path) with
  | some entry => some entry.2
  | none => if files.entries.any (path <+: ·.1) ∨ path = [] then some .directory else none

/-- Where a walk along a path has come to: outside the directory, or at what
stands at a path of names. -/
inductive Place where
  | outside
  | inside (path : List String)

/-- Takes a step of a walk. -/
def step (files : Files) (place : Place) (part : String) : Except FileFault Place :=
  match place with
  | .outside =>
      if part = "" ∨ part = "." ∨ part = ".." then .ok .outside else .error .notFound
  | .inside path =>
      match files.entry? path with
      | none => .error .notFound
      | some (.file _) => .error .notDirectory
      | some .directory =>
          if part = "" ∨ part = "." then .ok place
          else if part = ".." then
            .ok (if path = [] then .outside else .inside path.dropLast)
          else if nameLimit < part.utf8ByteSize then .error .nameTooLong
          else .ok (.inside (path ++ [part]))

/-- The text of the file at a path. -/
def read (files : Files) (path : String) : Except FileFault String := do
  if path = "" then .error .notFound
  else
    let parts := (parts '/' path.toList).map String.ofList
    let start := if path.toList.head? = some '/' then Place.outside else .inside []
    match ← parts.foldlM files.step start with
    | .outside => .error .isDirectory
    | .inside path => FileEntry.textOf (files.entry? path)

end Files

end Highlight
