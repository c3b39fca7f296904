/-
The generator as a program.

It carries out its command line on the files of the system, and reports what failed.
-/
import Cratewright.Pipeline

namespace Cratewright

/-- The fault that an error of the system means. -/
def FileFault.ofSystem : IO.Error → FileFault
  | .noFileOrDirectory .. => .absent
  | .inappropriateType _ 20 _ => .notDirectory
  | .inappropriateType _ 21 _ => .isDirectory
  | .alreadyExists .. => .occupied
  | e => .other (toString e)

/-- The outcome of an action of the system. -/
def attempt {α : Type} (action : IO α) : IO (Except FileFault α) := do
  try
    return .ok (← action)
  catch e =>
    return .error (FileFault.ofSystem e)

instance : FileAccess IO where
  checkDirectory base path := attempt do
    let _ ← (← IO.FS.realPath (Path.join base path)).readDir
  makeDirectory base path := attempt (IO.FS.createDir (Path.join base path))
  readText base path := attempt (IO.FS.readFile (Path.join base path))
  writeText base path text := attempt (IO.FS.writeFile (Path.join base path) text)

/-- How the program is called. -/
def usage : String :=
  Text.ofLines [
    "Generates one crate for each service of a model.",
    "",
    "Usage: cratewright --model PATH [--settings PATH] [--out-dir PATH]",
    "         [--service NAMESPACE#NAME]... [--runtime-plugin]"]

def programVersion : String := "0.1.0"

end Cratewright

open Cratewright

/-- Carries out the command line. -/
def main (arguments : List String) : IO UInt32 := do
  match CommandLine.parse arguments with
  | .error .help =>
    IO.println usage
    return 0
  | .error .version =>
    IO.println ("cratewright " ++ programVersion)
    return 0
  | .error refusal =>
    IO.eprintln ("error: " ++ refusal.name)
    IO.eprintln usage
    return 2
  | .ok arguments =>
    match ← (Pipeline.run arguments : ExceptT Pipeline.Failure IO _).run with
    | .ok _ => return 0
    | .error failure =>
      IO.eprintln ("error: " ++ failure.message)
      return 1
