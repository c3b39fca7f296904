/-
Settings of a generation.

The settings name the crate to generate, say for which target and from which runtime crates
it is built, and how its configuration stores parameters. A `Context` is what a generator
knows about the service that it generates code for.
-/
import Cratewright.Crate.Known
import Cratewright.Model

namespace Cratewright

/-- The kind of crate that is generated. -/
inductive Target where
  | client
  | server
deriving DecidableEq, Inhabited

/-- How the generated configuration stores its parameters. -/
inductive StorageMode where
  /-- Each in a field of its own. -/
  | directFields
  /-- Together in a layered bag that is keyed by type. -/
  | layeredBag
deriving DecidableEq, Inhabited

/-- A further configuration parameter that the settings ask for. -/
structure DeclaredParameter where
  name : String
  /-- The path of the parameter's type. -/
  typePath : String
  /-- The crate that provides the type. -/
  crateName : Option String := none
  /-- The version of that crate. -/
  version : Option String := none
  docs : Option String := none
deriving DecidableEq, Inhabited

/-- What the generators do. -/
structure CodegenConfig where
  storageMode : StorageMode := .layeredBag
  /-- Whether interceptors can be registered with the configuration. -/
  includeInterceptors : Bool := false
  parameters : List DeclaredParameter := []
deriving DecidableEq, Inhabited

/-- The settings of one generation. -/
structure Settings where
  /-- The name of the generated crate. -/
  moduleName : String
  /-- The version of the generated crate. -/
  moduleVersion : String := "0.1.0"
  /-- The service to generate; every service of the model if there is none. -/
  service : Option String := none
  target : Target := .client
  runtime : RuntimeConfig := {}
  codegen : CodegenConfig := {}
deriving DecidableEq, Inhabited

/-- The name that code refers to the generated crate by. -/
def Settings.useName (s : Settings) : String := Text.replaceChar '-' '_' s.moduleName

/-- A service of a model, with the settings of its generation. -/
structure Context where
  model : Model
  service : ShapeId
  settings : Settings

namespace Context

/-- Where the runtime crates come from. -/
def runtime (ctx : Context) : RuntimeConfig := ctx.settings.runtime

/-- How the configuration stores its parameters. -/
def storageMode (ctx : Context) : StorageMode := ctx.settings.codegen.storageMode

end Context

end Cratewright
