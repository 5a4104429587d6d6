import Highlight.CommandLine.Files
import Highlight.Settings.Toml

/-!
# The settings file

Settings are kept in a file in the user's home directory. A file that is not
there, cannot be read or holds no settings gives the standard ones.
-/

namespace Highlight

set_option autoImplicit false

namespace Settings

/-- The name of the settings file. -/
def fileName : String := ".decor.toml"

/-- The path of the settings file in a home directory. -/
def pathIn (home : String) : String :=
  if home = "" ∨ home.toList.getLast? = some '/' then home ++ fileName else home ++ "/" ++ fileName

/-- The settings in a file. -/
def ofFile (entry : Option FileEntry) : Settings :=
  match FileEntry.textOf entry with
  | .error _ => standard
  | .ok text =>
      match parse text with
      | .error _ => standard
      | .ok settings => settings

/-- The file with settings written to it. -/
def save (settings : Settings) : Option FileEntry → Except FileFault FileEntry
  | some .directory => .error .isDirectory
  | _ => .ok (.ofText settings.print)

end Settings

end Highlight
