/-
Access to files.

What a program does with files is written over any monad that offers the four operations
of `FileAccess`; `Tree` offers them on a tree of files that is a value. A path is followed
from a base directory, which is given by its own path from the current directory.
-/
import Cratewright.Path

namespace Cratewright

/-- Why an operation on files failed. -/
inductive FileFault where
  /-- Nothing is there. -/
  | absent
  /-- A part of the path, or the path itself, is no directory. -/
  | notDirectory
  /-- The path leads to a directory. -/
  | isDirectory
  /-- Something is there already. -/
  | occupied
  /-- A name on the path, or the path itself, is longer than the system allows. -/
  | nameTooLong
  /-- The path of a directory holds the null character. -/
  | holdsNull
  /-- The path is none that the system understands. -/
  | invalidPath
  /-- The file holds no text. -/
  | notText
  /-- Any other reason. -/
  | other (reason : String)
deriving DecidableEq

/-- The fault in words. -/
def FileFault.message : FileFault → String
  | absent => "No such file or directory (os error 2)"
  | notDirectory => "Not a directory (os error 20)"
  | isDirectory => "Is a directory (os error 21)"
  | occupied => "File exists (os error 17)"
  | nameTooLong => "File name too long (os error 36)"
  | holdsNull => "file name contained an unexpected NUL byte"
  | invalidPath => "Invalid argument (os error 22)"
  | notText => "stream did not contain valid UTF-8"
  | other reason => reason

/-- A monad with files. -/
class FileAccess (m : Type → Type) where
  /-- Checks that a path leads to a directory. -/
  checkDirectory (base path : String) : m (Except FileFault Unit)
  /-- Makes one directory, in a directory that is there. -/
  makeDirectory (base path : String) : m (Except FileFault Unit)
  /-- The text of a file. -/
  readText (base path : String) : m (Except FileFault String)
  /-- Makes a file, or replaces what it holds. -/
  writeText (base path text : String) : m (Except FileFault Unit)

/-- The path of the current directory. -/
def currentDirectory : String := "."

section Directories

variable {m : Type → Type} [Monad m] [FileAccess m]

/-- Makes a directory in one that is there. It may be there itself. -/
def makeUnlessDirectory (base path : String) : m (Except FileFault Unit) := do
  match ← FileAccess.makeDirectory base path with
  | .ok () => return .ok ()
  | .error .absent => return .error .absent
  | .error fault =>
    match ← FileAccess.checkDirectory base path with
    | .ok () => return .ok ()
    | .error _ => return .error fault

/-- Makes the first directory of a list of paths, each of which leads to the directory that
the one before it is in. The others are made first if they have to be. -/
def makeInnermost (base : String) : List String → m (Except FileFault Unit)
  | [] => return .ok ()
  | path :: above => do
    if path.isEmpty then return .ok ()
    match ← makeUnlessDirectory base path with
    | .error .absent =>
      match ← makeInnermost base above with
      | .ok () => makeUnlessDirectory base path
      | .error fault => return .error fault
    | result => return result

/-- Makes the directory of a path and those above it, where they do not exist. -/
def makeDirectories (base path : String) : m (Except FileFault Unit) :=
  makeInnermost base (Path.ancestors path)

/-- Checks that a path leads to a directory, and makes it if nothing is there. -/
def ensureDirectory (path : String) : m (Except FileFault Unit) := do
  match ← FileAccess.checkDirectory currentDirectory path with
  | .error .absent =>
    match ← makeDirectories currentDirectory path with
    | .ok () => FileAccess.checkDirectory currentDirectory path
    | .error fault => return .error fault
  | result => return result

end Directories

end Cratewright
