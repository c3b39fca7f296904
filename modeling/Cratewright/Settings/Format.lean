/-
Settings as JSON.

`Settings.parse` reads a settings document; `Settings.toJson` writes one out in full, with
`null` for what is not there.
-/
import Cratewright.Json.Printer
import Cratewright.Json.Record
import Cratewright.Settings

namespace Cratewright

open Json

def Target.names : List (String × Target) := [("client", .client), ("server", .server)]

def Target.name : Target → String
  | client => "client"
  | server => "server"

def StorageMode.names : List (String × StorageMode) :=
  [("directFields", .directFields), ("layeredBag", .layeredBag)]

def StorageMode.name : StorageMode → String
  | directFields => "directFields"
  | layeredBag => "layeredBag"

/-- A text or `null`. -/
def optionalText : Option String → Json
  | none => .null
  | some s => .text s

/-- Replaces a part of a record by what is read. -/
def setRead {σ α : Type} (set : σ → α → σ)
    (read : Nat → List Char → Except Fault (α × List Char)) (acc : σ) : FromText σ :=
  fun depth s => (read depth s).map fun p => (set acc p.1, p.2)

/-! ### Runtime configuration -/

namespace RuntimeConfig

/-- The fields of a runtime configuration. -/
def layout : Layout RuntimeConfig (FromText RuntimeConfig) where
  name := "RuntimeConfig"
  start := {}
  fields := [
    { name := "cratePrefix", required := false
      read := setRead (fun c v => { c with cratePrefix := v }) fun _ => readString },
    { name := "relativePath", required := false
      read := setRead (fun c v => { c with relativePath := v }) fun _ => readOption readString },
    { name := "versions", required := false
      read := setRead (fun c v => { c with versions := v }) (readMap .ok fun _ => readString) }]

/-- The configuration as an object. -/
def toJson (c : RuntimeConfig) : Json :=
  .object [
    ("cratePrefix", .text c.cratePrefix),
    ("relativePath", optionalText c.relativePath),
    ("versions", .object (c.versions.entries.map fun e => (e.1, .text e.2)))]

end RuntimeConfig

/-! ### Declared parameters -/

namespace DeclaredParameter

/-- The fields of a declared parameter. -/
def layout : Layout DeclaredParameter (FromText DeclaredParameter) where
  name := "ConfigParamSettings"
  start := { name := "", typePath := "" }
  fields := [
    { name := "name", required := true
      read := setRead (fun p v => { p with name := v }) fun _ => readString },
    { name := "type", required := true
      read := setRead (fun p v => { p with typePath := v }) fun _ => readString },
    { name := "crate", required := false
      read := setRead (fun p v => { p with crateName := v }) fun _ => readOption readString },
    { name := "version", required := false
      read := setRead (fun p v => { p with version := v }) fun _ => readOption readString },
    { name := "docs", required := false
      read := setRead (fun p v => { p with docs := v }) fun _ => readOption readString }]

/-- The parameter as an object. -/
def toJson (p : DeclaredParameter) : Json :=
  .object [
    ("name", .text p.name),
    ("type", .text p.typePath),
    ("crate", optionalText p.crateName),
    ("version", optionalText p.version),
    ("docs", optionalText p.docs)]

end DeclaredParameter

/-! ### Generator switches -/

namespace CodegenConfig

/-- The fields of the generator switches. -/
def layout : Layout CodegenConfig (FromText CodegenConfig) where
  name := "CodegenConfig"
  start := {}
  fields := [
    { name := "storageMode", required := false
      read := setRead (fun c v => { c with storageMode := v }) (readVariant StorageMode.names) },
    { name := "includeInterceptors", required := false
      read := setRead (fun c v => { c with includeInterceptors := v }) fun _ => readFlag },
    { name := "configParams", required := false
      read := setRead (fun c v => { c with parameters := v })
        (readList DeclaredParameter.layout.read) }]

/-- The switches as an object. -/
def toJson (c : CodegenConfig) : Json :=
  .object [
    ("storageMode", .text c.storageMode.name),
    ("includeInterceptors", .flag c.includeInterceptors),
    ("configParams", .list (c.parameters.map DeclaredParameter.toJson))]

end CodegenConfig

/-! ### Settings -/

namespace Settings

/-- The fields of the settings. -/
def layout : Layout Settings (FromText Settings) where
  name := "CodegenSettings"
  start := { moduleName := "" }
  fields := [
    { name := "moduleName", required := true
      read := setRead (fun s v => { s with moduleName := v }) fun _ => readString },
    { name := "moduleVersion", required := false
      read := setRead (fun s v => { s with moduleVersion := v }) fun _ => readString },
    { name := "service", required := false
      read := setRead (fun s v => { s with service := v }) fun _ => readOption readString },
    { name := "target", required := false
      read := setRead (fun s v => { s with target := v }) (readVariant Target.names) },
    { name := "runtimeConfig", required := false
      read := setRead (fun s v => { s with runtime := v }) RuntimeConfig.layout.read },
    { name := "codegen", required := false
      read := setRead (fun s v => { s with codegen := v }) CodegenConfig.layout.read }]

/-- Reads a settings document. -/
def parse (document : String) : Except Error Settings :=
  (readDocument (layout.read depthLimit) document).mapError .settings

/-- The settings as an object. -/
def toJson (s : Settings) : Json :=
  .object [
    ("moduleName", .text s.moduleName),
    ("moduleVersion", .text s.moduleVersion),
    ("service", optionalText s.service),
    ("target", .text s.target.name),
    ("runtimeConfig", s.runtime.toJson),
    ("codegen", s.codegen.toJson)]

end Settings

end Cratewright
