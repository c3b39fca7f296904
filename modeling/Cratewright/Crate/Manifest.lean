/-
Dependency tables of a manifest.

Each dependency becomes a record, in which the path of a local crate is resolved and
written with slashes. The records of a scope make up one table, keyed by crate name; of two
records of one name the later one stands.
-/
import Cratewright.Crate.DependencySet
import Cratewright.Path
import Cratewright.Toml

namespace Cratewright

/-- A dependency as a manifest lists it. -/
structure DependencyRecord where
  name : String
  scope : Scope
  version : Option String
  /-- The normal path of a local crate. -/
  path : Option String
  features : List String
  optional : Bool
  defaultFeatures : Bool
deriving DecidableEq

namespace DependencyRecord

/-- The path of a local crate, from where the manifest stands. -/
def localPath (base directory name : String) : String :=
  Text.replaceChar '\\' '/' (Path.normalize (Path.join (Path.join base directory) name))

/-- The record of a dependency, with local paths resolved against `base`. -/
def ofDependency (d : CrateDependency) (base : String) : DependencyRecord where
  name := d.name
  scope := d.scope
  version :=
    match d.location with
    | .registry version => some version
    | .directory _ version => version
  path :=
    match d.location with
    | .registry _ => none
    | .directory directory _ => some (localPath base directory d.name)
  features := d.features.toList
  optional := d.optional
  defaultFeatures := d.defaultFeatures

/-- The entries that the record has, each under its key. -/
def entries (r : DependencyRecord) : List (String × Toml) :=
  (r.version.map fun v => ("version", Toml.text v)).toList ++
  (r.path.map fun p => ("path", Toml.text p)).toList ++
  (if r.features.isEmpty then [] else [("features", Toml.list r.features)]) ++
  (if r.optional then [("optional", Toml.flag true)] else []) ++
  (if r.defaultFeatures then [] else [("default-features", Toml.flag false)])

/-- The record as a table. -/
def toToml (r : DependencyRecord) : Toml := Toml.ofMap (SortedMap.ofList r.entries)

end DependencyRecord

/-- The condition under which the unstable dependencies are used. -/
def unstableCondition : String := "cfg(aws_sdk_unstable)"

/-- The place of a scope's table in a manifest. -/
def Scope.tablePath : Scope → List String
  | build => ["build-dependencies"]
  | cfgUnstable => ["target", unstableCondition, "dependencies"]
  | compile => ["dependencies"]
  | dev => ["dev-dependencies"]

/-- A value inside tables of the given names. -/
def Toml.nest : List String → Toml → Toml
  | [], v => v
  | name :: rest, v => .table [(name, Toml.nest rest v)]

namespace DependencySet

/-- The records of all dependencies, in key order. -/
def records (s : DependencySet) (base : String) : List DependencyRecord :=
  s.toList.map (DependencyRecord.ofDependency · base)

def scopeTable (s : DependencySet) (base : String) (scope : Scope) : SortedMap String Toml :=
  SortedMap.ofList
    (((s.records base).filter (·.scope == scope)).map fun r => (r.name, r.toToml))

/-- The tables of all scopes that have dependencies. -/
def manifestTables (s : DependencySet) (base : String) : SortedMap String Toml :=
  [Scope.build, .cfgUnstable, .compile, .dev].foldl
    (fun m scope =>
      let table := s.scopeTable base scope
      match scope.tablePath with
      | name :: rest =>
        if table.isEmpty then m else m.insert name (Toml.nest rest (Toml.ofMap table))
      | [] => m)
    SortedMap.empty

/-- The text of the dependency tables. -/
def renderManifest (s : DependencySet) (base : String) : String :=
  Toml.render (s.manifestTables base)

end DependencySet

end Cratewright
