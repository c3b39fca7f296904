/-
From files to crates.

A run reads a model and perhaps settings, selects services, and writes one crate for each.
A service that fails does not keep the others from being written; the failures are reported
together at the end.
-/
import Cratewright.CommandLine
import Cratewright.Files.Tree
import Cratewright.Generation
import Cratewright.Model.Format
import Cratewright.Settings.Format

namespace Cratewright.Pipeline

/-- Why a run failed. -/
inductive Failure where
  /-- The inputs are wrong, or no code could be generated. -/
  | generation (e : Error)
  /-- An operation on files failed. -/
  | files (path : String) (fault : FileFault)
  /-- A path of an input has no file name. -/
  | notFile (path : String)
  /-- The model has no services. -/
  | noServices (modelPath : String)
  /-- A service that was asked for is not in the model. -/
  | unknownService (id : String)
  /-- Some services failed. -/
  | services (failed : List ShapeId)

/-- The failure in words. -/
def Failure.message : Failure → String
  | generation e => e.message
  | files path fault => "I/O error at " ++ path ++ ": " ++ fault.message
  | notFile path => "path '" ++ path ++ "' has no file name"
  | noServices modelPath => "model at " ++ modelPath ++ " declares no services"
  | unknownService id => "service '" ++ id ++ "' was not found in the model"
  | services failed =>
    "generation failed for " ++ toString failed.length ++ " service(s): " ++
      ", ".intercalate (failed.map ShapeId.text)

structure WrittenCrate where
  service : ShapeId
  /-- The name in the manifest. -/
  name : String
  /-- The directory. -/
  path : String
deriving DecidableEq

/-! ### Services and their settings -/

/-- The service of an identifier that was asked for. -/
def requested (model : Model) (raw : String) : Except Failure ShapeId := do
  let id ← (ShapeId.parse raw).mapError fun m => .generation (.malformedId m)
  if model.serviceIds.contains id then return id else .error (.unknownService raw)

/-- The services to generate: those asked for on the command line, else the one of the
settings, else all. -/
def selectServices (model : Model) (settings : Option Settings) (overrides : List String)
    (modelPath : String) : Except Failure (List ShapeId) :=
  let names := if overrides.isEmpty then (settings.bind (·.service)).toList else overrides
  if names.isEmpty then
    if model.serviceIds.isEmpty then .error (.noServices modelPath) else .ok model.serviceIds
  else names.mapM (requested model)

/-- The settings of one service's crate. One of several services adds its name to that of
the crate, and without settings the crate bears the service's name alone. -/
def settingsFor (base : Option Settings) (service : ShapeId) (isOnly : Bool) : Settings :=
  let name := Text.kebabCase service.name
  match base with
  | none => { moduleName := name }
  | some s =>
    { s with
      moduleName := if isOnly then s.moduleName else s.moduleName ++ "-" ++ name
      service := some service.text }

/-! ### Files -/

section Files

variable {m : Type → Type} [Monad m] [FileAccess m]

/-- The outcome of an operation on files, with the path that a failure names. -/
def atPath {α : Type} (path : String) (action : m (Except FileFault α)) :
    ExceptT Failure m α :=
  ExceptT.mk do return (← action).mapError (.files path)

/-- The text of an input file. -/
def readInput (path : String) : ExceptT Failure m String := do
  match Path.fileName? path with
  | none => throw (.notFile path)
  | some name =>
    let parent := (Path.parent? path).getD ""
    let directory := if parent.isEmpty then currentDirectory else parent
    atPath directory (FileAccess.checkDirectory currentDirectory directory)
    atPath path (FileAccess.readText directory name)

/-- Writes a file of a crate, in its directory. -/
def writeFile (root relative text : String) : ExceptT Failure m Unit := do
  let parent := (Path.parent? relative).getD ""
  unless parent.isEmpty do
    atPath (Path.join root parent) (makeDirectories root parent)
  atPath (Path.join root relative) (FileAccess.writeText root relative text)

/-- Writes a crate into its own directory, and gives the path of that. -/
def writeCrate (outDir name : String) (files : SortedMap String String) :
    ExceptT Failure m String := do
  let root := Path.join outDir name
  atPath root (ensureDirectory root)
  files.entries.forM fun (relative, text) => writeFile root relative text
  return root

/-! ### Inputs -/

def readModel (path : String) : ExceptT Failure m Model := do
  let text ← readInput path
  ExceptT.mk (pure ((Model.parse text).mapError .generation))

def readSettings (path : String) : ExceptT Failure m Settings := do
  let text ← readInput path
  ExceptT.mk (pure ((Settings.parse text).mapError .generation))

/-- What a run works on. -/
structure Selection where
  model : Model
  settings : Option Settings
  services : List ShapeId

/-- Reads the inputs and selects the services. -/
def prepare (arguments : Arguments) : ExceptT Failure m Selection := do
  let model ← readModel arguments.model
  let settings ← arguments.settings.mapM readSettings
  let services ← ExceptT.mk <| pure <|
    selectServices model settings arguments.services arguments.model
  return { model, settings, services }

/-! ### Services -/

namespace Selection

variable (s : Selection) (arguments : Arguments) (service : ShapeId)

/-- The settings of a service's own crate. -/
def settingsOf : Settings := settingsFor s.settings service (s.services.length == 1)

/-- The directory of a service's crate. -/
def root : String := Path.join arguments.outDir (s.settingsOf service).moduleName

/-- The crate that is generated for a service. -/
def generate : Except Error (SortedMap String String) :=
  generateCrate ⟨s.model, service, s.settingsOf service⟩
    (.forTarget (s.settingsOf service).target) arguments.runtimePlugin

/-- What is reported of a crate that has been written. -/
def crate : WrittenCrate :=
  ⟨service, (s.settingsOf service).moduleName, s.root arguments service⟩

/-- Generates and writes the crate of a service. -/
def attempt : ExceptT Failure m WrittenCrate := do
  let files ← ExceptT.mk (pure ((s.generate arguments service).mapError .generation))
  let path ← writeCrate arguments.outDir (s.settingsOf service).moduleName files
  return { service, name := (s.settingsOf service).moduleName, path }

/-- Attempts services one after the other. -/
def attemptEach (services : List ShapeId) :
    m (List (ShapeId × Except Failure WrittenCrate)) :=
  services.mapM fun service => do return (service, ← (s.attempt arguments service).run)

/-- Attempts services one after the other, on a tree of files. -/
def attemptAll (services : List ShapeId) :
    StateM FileTree (List (ShapeId × Except Failure WrittenCrate)) :=
  s.attemptEach arguments services

end Selection

/-! ### Runs -/

/-- The service of an attempt that failed. -/
def failed? (r : ShapeId × Except Failure WrittenCrate) : Option ShapeId :=
  match r.2 with
  | .ok _ => none
  | .error _ => some r.1

/-- What is reported of the attempts. -/
def report (results : List (ShapeId × Except Failure WrittenCrate)) :
    Except Failure (List WrittenCrate) :=
  if (results.filterMap failed?).isEmpty then .ok (results.filterMap (·.2.toOption))
  else .error (.services (results.filterMap failed?))

/-- Carries out a command line. -/
def run (arguments : Arguments) : ExceptT Failure m (List WrittenCrate) := do
  let s ← prepare arguments
  let results ← ExceptT.lift (s.attemptEach arguments s.services)
  ExceptT.mk (pure (report results))

end Files

end Cratewright.Pipeline
