/-
Access to files, as far as the tool needs it, and a tree of files in memory that provides it.
-/

import Tabulation.Text.Bytes
import Tabulation.Text.Path

namespace Tabulation

open Tabulation.Text (Bytes)

/-- What can be wrong with a path. -/
inductive FileFault where
  | notFound
  | isDirectory
  | notDirectory
  | exists
  /-- A text that cannot be a path. -/
  | notPath
  | tooLong
  /-- Something else, in the words of the operating system. -/
  | other (words : String)
deriving Repr, DecidableEq

def FileFault.words : FileFault → String
  | .notFound => "no such file or directory"
  | .isDirectory => "is a directory"
  | .notDirectory => "not a directory"
  | .exists => "file exists"
  | .notPath => "invalid argument"
  | .tooLong => "file name too long"
  | .other words => words

/-- An action on a path that failed. -/
structure FileError where
  action : String
  path : String
  fault : FileFault
deriving Repr, DecidableEq

def FileError.message (error : FileError) : String :=
  error.action ++ " " ++ error.path ++ ": " ++ error.fault.words

/-- Access to files in a monad. `makeDir` makes one directory and `makeDirs` also those above it; a
fresh directory gets a name that was not used before, and the result is its path. -/
structure Files (m : Type → Type) where
  read : String → m (Except FileError Bytes)
  makeDir : String → m (Except FileError Unit)
  makeDirs : String → m (Except FileError Unit)
  makeFreshDir : (parent ending : String) → m (Option String)
  write : String → Bytes → m (Except FileError Unit)

/-- What stands at a path of a tree of files. -/
inductive FileEntry where
  | file (content : Bytes)
  | directory
deriving Repr, DecidableEq

/-- A tree of files. Its entries are named by clean rooted paths; relative paths start at `workDir`.
The root and `workDir` with all directories above it are there from the start. -/
structure FileTree where
  workDir : String
  entries : List (String × FileEntry) := []
  fresh : Nat := 0
deriving Repr

namespace FileTree

def isAbove (tree : FileTree) (place : String) : Bool :=
  place == "/" || place == tree.workDir || tree.workDir.startsWith (place ++ "/")

/-- What stands at a clean rooted path. -/
def entryAt? (tree : FileTree) (place : String) : Option FileEntry :=
  if tree.isAbove place then some .directory else tree.entries.lookup place

def directoryFault? (tree : FileTree) (place : String) : Option FileFault :=
  match tree.entryAt? place with
  | some .directory => none
  | some (.file _) => some .notDirectory
  | none => some .notFound

def maxName : Nat := 255

/-- The largest number of bytes of a path. -/
def maxPath : Nat := 4095

/-- Follows the parts of a path from a place. All but the last must lead through directories. -/
def walk (tree : FileTree) : (place : String) → List String → Except FileFault String
  | place, [] => .ok place
  | place, part :: rest =>
    match tree.directoryFault? place with
    | some fault => .error fault
    | none =>
      if part == "" || part == "." then tree.walk place rest
      else if part == ".." then tree.walk (Text.Path.dir place) rest
      else if maxName < (Text.bytesOf part).length then .error .tooLong
      else tree.walk (Text.Path.join [place, part]) rest

/-- The clean rooted form of a path. -/
def resolve (tree : FileTree) (path : String) : Except FileFault String :=
  if path.contains '\x00' then .error .notPath
  else if path == "" then .error .notFound
  else if maxPath < (Text.bytesOf path).length then .error .tooLong
  else tree.walk (if path.startsWith "/" then "/" else tree.workDir) (path.splitOn "/")

def entry? (tree : FileTree) (path : String) : Option FileEntry :=
  match tree.resolve path with
  | .ok place => tree.entryAt? place
  | .error _ => none

def isDir (tree : FileTree) (path : String) : Bool := tree.entry? path == some .directory

/-- Puts an entry at a clean rooted path. -/
def put (tree : FileTree) (place : String) (entry : FileEntry) : FileTree :=
  { tree with entries := (place, entry) :: tree.entries.filter (·.1 != place) }

def read (tree : FileTree) (path : String) : Except FileError Bytes :=
  match tree.resolve path with
  | .error fault => .error ⟨"open", path, fault⟩
  | .ok place =>
    match tree.entryAt? place with
    | some (.file content) => .ok content
    | some .directory => .error ⟨"read", path, .isDirectory⟩
    | none => .error ⟨"open", path, .notFound⟩

/-- A path without slashes at its end. -/
def trimmed (path : String) : String :=
  let kept := path.toList.reverse.dropWhile (· == '/')
  if kept.isEmpty && path != "" then "/" else String.ofList kept.reverse

/-- Makes a directory whose parent is there. -/
def makeDir (tree : FileTree) (path : String) : Except FileError Unit × FileTree :=
  match tree.resolve (trimmed path) with
  | .error fault => (.error ⟨"mkdir", path, fault⟩, tree)
  | .ok place =>
    if (tree.entryAt? place).isSome then (.error ⟨"mkdir", path, .exists⟩, tree)
    else (.ok (), tree.put place .directory)

/-- The parts of a path that end before a name, with the slash, the shortest first. -/
def parents (path : String) : List String :=
  let chars := (trimmed path).toList
  ((List.range chars.length).filter fun n => chars[n]? == some '/').map fun n =>
    String.ofList (chars.take (n + 1))

/-- Makes a directory that may be there already. -/
def makeOneOf (tree : FileTree) (path : String) : Except FileError Unit × FileTree :=
  match tree.entry? path with
  | some .directory => (.ok (), tree)
  | some (.file _) => (.error ⟨"mkdir", path, .notDirectory⟩, tree)
  | none => tree.makeDir path

def makeDirs (tree : FileTree) (path : String) : Except FileError Unit × FileTree :=
  (parents path ++ [path]).foldl
    (fun state path =>
      match state.1 with
      | .error error => (.error error, state.2)
      | .ok () => state.2.makeOneOf path)
    (.ok (), tree)

/-- Makes a directory with a name that was not used before. -/
def makeFreshDir (tree : FileTree) (parent ending : String) : Option String × FileTree :=
  if tree.isDir parent then
    let between := if parent.endsWith "/" then "" else "/"
    let path := parent ++ between ++ toString tree.fresh ++ ending
    (some path, { (tree.makeDir path).2 with fresh := tree.fresh + 1 })
  else (none, tree)

/-- The place of a file to write. A path with a slash at its end names a directory, whether it is
there or not; only its parent has to be. -/
def placeToWrite (tree : FileTree) (path : String) : Except FileFault String := do
  if path.endsWith "/" && !path.contains '\x00' then
    let place ← tree.resolve (Text.Path.parentText (trimmed path) ++ ".")
    match tree.directoryFault? place with
    | some fault => .error fault
    | none => .error .isDirectory
  else
    let place ← tree.resolve path
    if tree.entryAt? place == some .directory then .error .isDirectory else .ok place

/-- Writes a file whose directory is there. -/
def write (tree : FileTree) (path : String) (content : Bytes) : Except FileError Unit × FileTree :=
  match tree.placeToWrite path with
  | .error fault => (.error ⟨"open", path, fault⟩, tree)
  | .ok place => (.ok (), tree.put place (.file content))

/-- Writes a file after making all directories above it. -/
def writeDeep (tree : FileTree) (path : String) (content : Bytes) : FileTree :=
  ((tree.makeDirs (Text.Path.dir path)).2.write path content).2

def access : Files (StateM FileTree) where
  read path := fun tree => (tree.read path, tree)
  makeDir path := fun tree => tree.makeDir path
  makeDirs path := fun tree => tree.makeDirs path
  makeFreshDir parent ending := fun tree => tree.makeFreshDir parent ending
  write path content := fun tree => tree.write path content

end FileTree

end Tabulation
