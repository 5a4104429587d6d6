import Highlight.CommandLine.Run

/-!
# The program

The outer layer of the command: it reads the settings file and the input file,
writes the settings file if that was asked for, and prints the outcome.
-/

namespace Highlight

set_option autoImplicit false

/-- Why a file could not be read or written. -/
def faultOf : IO.Error → FileFault
  | .noFileOrDirectory _ _ _ => .notFound
  | .inappropriateType _ 20 _ => .notDirectory
  | .inappropriateType _ _ _ => .isDirectory
  | error => .other (toString error)

/-- What stands at a path, or why it cannot be read. -/
def entryAt (path : String) : IO (Except FileFault FileEntry) := do
  try
    let bytes ← IO.FS.readBinFile ⟨path⟩
    return .ok (.file bytes.toList)
  catch error =>
    match faultOf error with
    | .isDirectory => return .ok .directory
    | fault => return .error fault

/-- Writes a file, and tells why if that is not possible. -/
def writeEntry (path : String) : FileEntry → IO (Option Failure)
  | .directory => return some (.file .isDirectory)
  | .file bytes => do
      try
        IO.FS.writeBinFile ⟨path⟩ ⟨bytes.toArray⟩
        return none
      catch error => return some (.file (faultOf error))

/-- Prints an outcome and gives the exit code. -/
def finish (outcome : Outcome) : IO UInt32 := do
  IO.print outcome.output
  match outcome.complaint with
  | some line => IO.eprintln line
  | none => pure ()
  return outcome.exitCode.toUInt32

end Highlight

open Highlight

/-- Runs the command and gives its exit code. -/
def main (arguments : List String) : IO UInt32 := do
  let home ← IO.getEnv "HOME"
  let settingsFile ← match home with
    | some home => entryAt (Settings.pathIn home)
    | none => pure (.error .notFound)
  let source ← match Command.ofArguments arguments with
    | .ok (.run request) => entryAt (request.file.getD "")
    | _ => pure (.error .notFound)
  let surroundings : Surroundings :=
    ⟨home, settingsFile.toOption, fun _ => source.bind FileEntry.text⟩
  let outcome := Command.execute arguments surroundings
  match outcome.written, home with
  | some entry, some home =>
      match ← writeEntry (Settings.pathIn home) entry with
      | some failure => finish (.failed failure)
      | none => finish outcome
  | _, _ => finish outcome
