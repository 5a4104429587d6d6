import Highlight.CommandLine.Arguments
import Highlight.Decoration.Decorator
import Highlight.Language.All
import Highlight.Render.Terminal
import Highlight.Settings.File
import Highlight.Token.Json

/-!
# The command

The command shows a source file with its lexical categories: in the colors of a
terminal, as HTML, or as a token tree in JSON. It can also write the settings in
effect to the settings file.

What it does is a function of its arguments, of the settings file and of the
files it may read.
-/

namespace Highlight

set_option autoImplicit false

/-- What a command finds around it. -/
structure Surroundings where
  /-- The path of the user's home directory. -/
  home : Option String
  /-- What stands at the place of the settings file. -/
  settingsFile : Option FileEntry
  /-- The texts of files. -/
  read : String → Except FileFault String

/-- Why a command fails. -/
inductive Failure where
  | arguments (error : ArgumentError)
  | file (fault : FileFault)
  | decoration (fault : Fault)
  | unknownGrammar (name : String)
  | noInput
  | noHome

/-- The wording of a failure. -/
def Failure.message : Failure → String
  | arguments error => error.message
  | file fault => fault.message
  | decoration fault => fault.message
  | unknownGrammar name => "unsupported syntax: " ++ name
  | noInput => "no input file (see --help)"
  | noHome => "no home directory to write to"

/-- What a command comes to: its output, why it failed, and the settings file if
it was written. -/
structure Outcome where
  output : String := ""
  failure : Option Failure := none
  written : Option FileEntry := none

namespace Outcome

/-- The outcome of a command that fails without output. -/
def failed (failure : Failure) : Outcome := { failure := some failure }

/-- The exit code of a command. -/
def exitCode (outcome : Outcome) : Nat := if outcome.failure.isSome then 1 else 0

/-- The line that tells of a failure. -/
def complaint (outcome : Outcome) : Option String :=
  outcome.failure.map fun failure => "Error: " ++ failure.message

end Outcome

namespace Command

/-- Some lines of output. -/
def linesText (lines : List String) : String := String.join (lines.map (· ++ "\n"))

/-- The name of the command and its version. -/
def versionLine : String := "decor 0.1.0"

/-- What is shown when help is asked for. -/
def helpLines : List String :=
  [versionLine ++ " - syntax decorations for source files",
    "",
    "Usage: decor [OPTIONS] FILE",
    "",
    "Options:",
    "  -s, --syntax NAME  Grammar to use (default: by extension, then config)",
    "  -l, --per-line     Tokenize each line on its own",
    "      --html         Print HTML spans instead of terminal colors",
    "      --tokens       Print the token tree as JSON",
    "      --no-cache     Disable the block cache",
    "      --write-config Save the settings in effect to ~/.decor.toml",
    "  -h, --help         Show this help message",
    "  -V, --version      Show version information",
    "",
    "Logging is controlled by DECOR_LOG (e.g. DECOR_LOG=trace)."]

end Command

namespace Request

/-- The settings in effect: those of the settings file, as far as the request
does not change them. -/
def settings (request : Request) (surroundings : Surroundings) : Settings :=
  let saved :=
    match surroundings.home with
    | some _ => Settings.ofFile surroundings.settingsFile
    | none => .standard
  { saved with
    perLine := saved.perLine || request.perLine
    cached := saved.cached && !request.uncached }

/-- Writes the settings in effect. -/
def save (request : Request) (surroundings : Surroundings) : Outcome :=
  match surroundings.home with
  | none => .failed .noHome
  | some home =>
      match (request.settings surroundings).save surroundings.settingsFile with
      | .error fault => .failed (.file fault)
      | .ok entry =>
          { output := Command.linesText ["Wrote " ++ Settings.pathIn home], written := some entry }

/-- The grammar for a file: the one asked for, or the one for its extension, or
the one of the settings. -/
def grammarFor (request : Request) (settings : Settings) (path : String) : String :=
  match request.grammar with
  | some name => name
  | none => (Registry.builtin.detect? path).getD settings.grammar

/-- The block that holds the text of a file. -/
def blockOf (settings : Settings) (grammar source : String) : Block :=
  ((Block.ofSource settings.codeKind source .full).1).withData Block.grammarName grammar

/-- Shows the tokens of a block. -/
def showTokens (block : Block) (grammar : String) : Outcome :=
  match Registry.builtin.tokenizer block.text grammar with
  | none => .failed (.unknownGrammar grammar)
  | some tokens => { output := Command.linesText [Token.printSpread tokens] }

/-- The line before the decorated lines. -/
def htmlHeading (grammar : String) : String :=
  "<pre class=\"language-" ++ grammar ++ "\"><code>"

/-- The line behind the decorated lines. -/
def htmlEnding : String := "</code></pre>"

/-- Shows a block with its lexical categories. -/
def showBlock (request : Request) (settings : Settings) (block : Block) (grammar : String) :
    Outcome :=
  let renderer := if request.html then Renderer.html else .terminal .standard
  let options := { Options.ofSettings settings with renderer }
  let heading := if request.html then [htmlHeading grammar] else []
  let ending := if request.html then [htmlEnding] else []
  match ((Decorator.new Registry.builtin.tokenizer options).decorateBlock block).1 with
  | .error fault =>
      { output := Command.linesText heading, failure := some (.decoration fault) }
  | .ok texts => { output := Command.linesText (heading ++ texts.map renderer.text ++ ending) }

/-- Does what a request asks for. -/
def run (request : Request) (surroundings : Surroundings) : Outcome :=
  if request.writeSettings then request.save surroundings
  else
    match request.file with
    | none => .failed .noInput
    | some path =>
        match surroundings.read path with
        | .error fault => .failed (.file fault)
        | .ok source =>
            let settings := request.settings surroundings
            let grammar := request.grammarFor settings path
            let block := blockOf settings grammar source
            if request.tokens then showTokens block grammar
            else request.showBlock settings block grammar

end Request

namespace Command

/-- Does what arguments ask for. -/
def execute (arguments : List String) (surroundings : Surroundings) : Outcome :=
  match ofArguments arguments with
  | .error error => .failed (.arguments error)
  | .ok .help => { output := linesText helpLines }
  | .ok .version => { output := linesText [versionLine] }
  | .ok (.run request) => request.run surroundings

end Command

end Highlight
