/-
The command line tool on the files of the operating system.
-/

import Tabulation.Cli.Hint
import Tabulation.Cli.Run

namespace Tabulation

/-- The fault behind an error of the operating system. -/
def faultOf (directory : FileFault) : IO.Error → FileFault
  | .noFileOrDirectory .. | .noSuchThing .. => .notFound
  | .alreadyExists .. => .exists
  | .inappropriateType .. => directory
  | error => .other (toString error)

def tryAction {α : Type} (action path : String) (directory : FileFault) (run : IO α) :
    IO (Except FileError α) := do
  try
    return .ok (← run)
  catch error => return .error ⟨action, path, faultOf directory error⟩

/-- The content of a file. A directory can be opened, so the action that fails on it is reading. -/
def readFile (path : String) : IO (Except FileError Text.Bytes) := do
  match ← tryAction "open" path .isDirectory (IO.FS.readBinFile path) with
  | .ok content => return .ok content.toList
  | .error error =>
    let action := if error.fault == .isDirectory then "read" else error.action
    return .error { error with action }

def freshNumber : IO Nat := IO.rand 0 4294967295

def systemFiles : Files IO where
  read := readFile
  makeDir path := tryAction "mkdir" path .notDirectory (IO.FS.createDir path)
  makeDirs path := tryAction "mkdir" path .notDirectory (IO.FS.createDirAll path)
  makeFreshDir parent ending := do
    let path := parent ++ "/" ++ toString (← freshNumber) ++ ending
    match ← tryAction "mkdir" path .notDirectory (IO.FS.createDir path) with
    | .ok () => return some path
    | .error _ => return none
  write path content :=
    tryAction "open" path .isDirectory (IO.FS.writeBinFile path (ByteArray.mk content.toArray))

end Tabulation

open Tabulation in
/-- Runs the tool. An error goes to the error output with a hint, if there is one. -/
def main (arguments : List String) : IO UInt32 := do
  let output ← IO.getStdout
  let (result, console) ← Cli.run systemFiles (← output.isTty) arguments
  output.write (ByteArray.mk console.output.toArray)
  IO.eprint console.log.output
  match result with
  | .ok () => return 0
  | .error error =>
    IO.eprintln ("error: " ++ error.message)
    let hint := Cli.hintFor error.message
    if hint != "" then IO.eprintln ("Hint: " ++ hint)
    return 1
