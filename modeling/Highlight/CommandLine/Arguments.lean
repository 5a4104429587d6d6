/-!
# Arguments

The arguments of a command are read from left to right. An argument is a flag,
asks for help or for the version, takes the next argument as its value, or names
the input file. The first one that is wrong, or that asks for help or for the
version, decides.
-/

namespace Highlight

set_option autoImplicit false

/-- What a command asks for. -/
structure Request where
  file : Option String := none
  grammar : Option String := none
  perLine : Bool := false
  html : Bool := false
  tokens : Bool := false
  uncached : Bool := false
  writeSettings : Bool := false
deriving DecidableEq

/-- What a command is for. -/
inductive Command where
  | help
  | version
  | run (request : Request)
deriving DecidableEq

/-- What is wrong with arguments. -/
inductive ArgumentError where
  | unknownOption (option : String)
  | missingValue (option : String)
  | secondFile
deriving DecidableEq

/-- The wording of what is wrong. -/
def ArgumentError.message : ArgumentError → String
  | unknownOption option => "unknown option: " ++ option
  | missingValue option => option ++ " needs a value"
  | secondFile => "only one input file is supported"

/-- What an argument is. -/
inductive Argument where
  | help
  | version
  | grammar
  | flag (set : Request → Request)
  | unknown
  | file

/-- What an argument is, by its spelling. A hyphen alone names a file. -/
def Argument.ofString (text : String) : Argument :=
  if text = "--help" ∨ text = "-h" then help
  else if text = "--version" ∨ text = "-V" then version
  else if text = "--syntax" ∨ text = "-s" then grammar
  else if text = "--per-line" ∨ text = "-l" then flag fun r => { r with perLine := true }
  else if text = "--html" then flag fun r => { r with html := true }
  else if text = "--tokens" then flag fun r => { r with tokens := true }
  else if text = "--no-cache" then flag fun r => { r with uncached := true }
  else if text = "--write-config" then flag fun r => { r with writeSettings := true }
  else if text.toList.head? = some '-' ∧ text ≠ "-" then unknown
  else file

namespace Command

/-- Reads arguments, with what has been asked for before them. -/
def readAfter (request : Request) : List String → Except ArgumentError Command
  | [] => .ok (.run request)
  | argument :: rest =>
      match Argument.ofString argument with
      | .help => .ok .help
      | .version => .ok .version
      | .flag set => readAfter (set request) rest
      | .unknown => .error (.unknownOption argument)
      | .file =>
          match request.file with
          | none => readAfter { request with file := some argument } rest
          | some _ => .error .secondFile
      | .grammar =>
          match rest with
          | [] => .error (.missingValue argument)
          | value :: rest => readAfter { request with grammar := some value } rest

/-- Reads arguments. -/
def ofArguments (arguments : List String) : Except ArgumentError Command :=
  readAfter {} arguments

end Command

end Highlight
