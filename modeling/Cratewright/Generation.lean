/-
The generation of one service's crate.

The modules of a service are rendered first; what they need is then collected in a run of
its own, and `Artifacts.files` lays out the files of the crate.
-/
import Cratewright.Config.Generator
import Cratewright.Crate.Manifest
import Cratewright.Protocol.Loader
import Cratewright.Source.Reach

namespace Cratewright

/-- The rendered modules of a service. -/
structure Artifacts where
  service : ShapeId
  /-- The protocol that was chosen. -/
  protocol : ShapeId
  config : Output Fragment
  protocolModule : Output Fragment

/-- The script of a service's configuration module. -/
def ConfigGenerator.moduleScript (g : ConfigGenerator) (withPlugin : Bool) :
    List (Command Fragment) :=
  if withPlugin then g.script ++ .blankLine :: g.pluginScript else g.script

/-- Renders the modules of a service. -/
def renderService (ctx : Context) (loader : ProtocolLoader) (withPlugin : Bool) :
    Except Error Artifacts := do
  let (protocol, family) ← loader.select ctx.model ctx.service
  let protocolModule ← render (← family.build ctx).script
  let generator ← ConfigGenerator.withBaseBehavior ctx (← ConfigGenerator.ofSettings ctx)
  let config ← render (generator.moduleScript withPlugin)
  return { service := ctx.service, protocol, config, protocolModule }

namespace Artifacts

/-- The texts of the modules. -/
def outputs (a : Artifacts) : List (Output Fragment) := [a.config, a.protocolModule]

/-! ### Files -/

/-- The file that declares the modules. -/
def libFile : String := "src/lib.rs"

def manifestFile : String := "Cargo.toml"

/-- The modules of the service itself, with their texts. -/
def ownModules (a : Artifacts) : List WrittenModule :=
  [⟨.config, a.config.contents⟩, ⟨.protocol, a.protocolModule.contents⟩]

/-- Puts the text of a module into its file, after what is there already. -/
def addModule (files : SortedMap String String) (m : WrittenModule) :
    SortedMap String String :=
  let file := m.home.file
  match files.find? file with
  | some contents => files.insert file (contents ++ "\n" ++ m.contents)
  | none => files.insert file m.contents

def moduleFiles (a : Artifacts) (modules : List WrittenModule) : SortedMap String String :=
  modules.foldl addModule
    (SortedMap.ofList (a.ownModules.map fun m => (m.home.file, m.contents)))

/-- The declarations of the modules. -/
def declarations (a : Artifacts) (modules : List WrittenModule) : SortedSet String :=
  SortedSet.ofList ((a.ownModules ++ modules).map (·.home.declaration))

/-- The documentation of the crate. -/
def crateDocs (a : Artifacts) : String :=
  "//! Generated code for `" ++ a.service.text ++ "`.\n//!\n//! Speaks the `" ++
    a.protocol.text ++ "` protocol.\n\n"

/-- The text of the file that declares the modules. -/
def libText (a : Artifacts) (modules : List WrittenModule) : String :=
  a.crateDocs ++ String.join ((a.declarations modules).toList.map (· ++ "\n"))

def manifestText (settings : Settings) (dependencies : DependencySet) : String :=
  let package : SortedMap String Toml := SortedMap.ofList [
    ("name", .text settings.moduleName),
    ("version", .text settings.moduleVersion),
    ("edition", .text "2021")]
  let features : SortedMap String Toml := SortedMap.ofList [("test-util", .list [])]
  "\n".intercalate [
    Toml.render (SortedMap.ofList [("package", Toml.ofMap package)]),
    Toml.render (SortedMap.ofList [("features", Toml.ofMap features)]),
    dependencies.renderManifest "."]

/-- The files of the crate, by their paths in it. -/
def files (a : Artifacts) (settings : Settings) (output : RunOutput) :
    SortedMap String String :=
  ((a.moduleFiles output.modules).insert libFile (a.libText output.modules)).insert
    manifestFile (manifestText settings output.dependencies)

end Artifacts

/-- Generates the crate of a service: its files, by their paths in it. -/
def generateCrate (ctx : Context) (loader : ProtocolLoader) (withPlugin : Bool) :
    Except Error (SortedMap String String) := do
  let artifacts ← renderService ctx loader withPlugin
  let run ← (Run.empty : Run Fragment).commit ctx.service artifacts.outputs
  let output ← run.finish
  return artifacts.files ctx.settings output

end Cratewright
