import Highlight.Settings.Basic
import Highlight.Toml.Read

/-!
# Settings as TOML

A settings file gives each setting under a key. A setting that is not given has
its standard value, and other keys do not matter.
-/

namespace Highlight

set_option autoImplicit false

/-- Why a text gives no settings. -/
inductive SettingsError where
  /-- The text is not TOML. -/
  | malformed
  /-- What stands under a key is not of the kind it should be. -/
  | mismatched (key : String)
deriving DecidableEq

namespace Settings

/-- The key of whether every line is tokenized by itself. -/
def perLineKey : String := "block-per-line"

/-- The key of the grammar for blocks that name none. -/
def grammarKey : String := "default-syntax"

/-- The key of the kind of blocks that are highlighted. -/
def codeKindKey : String := "code-block"

/-- The key of the first class of the marks. -/
def classPrefixKey : String := "class-prefix"

/-- The key of whether tokens are kept. -/
def cachedKey : String := "cache"

/-! ## Reading -/

/-- The truth value under a key. -/
def truthUnder (entries : Toml.Entries) (key : String) (standard : Bool) :
    Except SettingsError Bool :=
  match Toml.get? key entries with
  | none => .ok standard
  | some (.value (.truth truth)) => .ok truth
  | some _ => .error (.mismatched key)

/-- The string under a key. -/
def textUnder (entries : Toml.Entries) (key standard : String) : Except SettingsError String :=
  match Toml.get? key entries with
  | none => .ok standard
  | some (.value (.text text)) => .ok text
  | some _ => .error (.mismatched key)

/-- The settings in a table. -/
def ofEntries (entries : Toml.Entries) : Except SettingsError Settings := do
  return {
    perLine := ← truthUnder entries perLineKey standard.perLine
    grammar := ← textUnder entries grammarKey standard.grammar
    codeKind := ← textUnder entries codeKindKey standard.codeKind
    classPrefix := ← textUnder entries classPrefixKey standard.classPrefix
    cached := ← truthUnder entries cachedKey standard.cached }

/-- Reads settings. -/
def parse (text : String) : Except SettingsError Settings :=
  match Toml.parse text with
  | none => .error .malformed
  | some entries => ofEntries entries

/-! ## Writing -/

/-- The first line of a settings file. -/
def heading : String := "# decor configuration\n"

/-- A truth value. -/
def truthText (truth : Bool) : List Char := if truth then "true".toList else "false".toList

/-- A line that gives a setting. -/
def setting (key : String) (value : List Char) : List Char :=
  key.toList ++ [' ', '=', ' '] ++ value ++ ['\n']

/-- The settings as they stand in a file. -/
def print (s : Settings) : String :=
  String.ofList (heading.toList ++ setting perLineKey (truthText s.perLine) ++
    setting grammarKey (Toml.writeText s.grammar.toList) ++
    setting codeKindKey (Toml.writeText s.codeKind.toList) ++
    setting classPrefixKey (Toml.writeText s.classPrefix.toList) ++
    setting cachedKey (truthText s.cached))

end Settings

end Highlight
