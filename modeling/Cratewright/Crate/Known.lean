/-
Crates that generated code is known to use.

Third-party crates have fixed versions. The runtime crates share a name prefix, and the
runtime configuration says whether they come from the registry or from a directory and
which versions are pinned.
-/
import Cratewright.Crate.Dependency

namespace Cratewright

namespace Known

def registry (name version : String) : CrateDependency :=
  CrateDependency.new name (.registry version)

def bytes : CrateDependency := registry "bytes" "1.0.0"

def fastrand : CrateDependency := registry "fastrand" "2.0.0"

def futuresCore : CrateDependency := registry "futures-core" "0.3.25"

def http : CrateDependency := registry "http" "0.2.9"

def httpBody : CrateDependency := registry "http-body" "0.4.4"

def hyper : CrateDependency := registry "hyper" "0.14.26"

def hyperWithStream : CrateDependency := { hyper with features := hyper.features.add "stream" }

/-- The crate `md-5`, which code knows under another name. -/
def md5 : CrateDependency := (registry "md-5" "0.10.0").withImportName "md5"

/-- The crate `serde` behind the unstable configuration. -/
def serde : CrateDependency :=
  let d := CrateDependency.new "serde" (.registry "1.0") .cfgUnstable
  { d with features := d.features.add "derive" }

/-- The crate `futures-util` for tests. -/
def futuresUtilDev : CrateDependency :=
  (CrateDependency.dev "futures-util" (.registry "0.3.25") []).withoutDefaultFeatures

/-- The crate `pretty_assertions` for tests. -/
def prettyAssertions : CrateDependency :=
  CrateDependency.dev "pretty_assertions" (.registry "1.3.0") []

/-- The crate `tokio` for tests. -/
def tokioDev : CrateDependency :=
  CrateDependency.dev "tokio" (.registry "1.23.1") ["macros", "test-util", "rt-multi-thread"]

end Known

/-- Where the runtime crates come from. -/
structure RuntimeConfig where
  /-- The part that the names of all runtime crates start with. -/
  cratePrefix : String := "aws"
  /-- The directory that holds the runtime crates, unless they come from the registry. -/
  relativePath : Option String := none
  /-- Pinned versions by full name, with a fallback for all others. -/
  versions : SortedMap String String := ∅
deriving DecidableEq, Inhabited

namespace RuntimeConfig

/-- The version of a runtime crate that nothing pins. -/
def defaultVersion : String := "1.0.0"

/-- The key of the version that is pinned for every crate without one of its own. -/
def fallbackKey : String := "DEFAULT"

/-- The full name of a runtime crate. -/
def crateName (c : RuntimeConfig) (name : String) : String := c.cratePrefix ++ "-" ++ name

/-- The version pinned for a crate. -/
def pinned? (c : RuntimeConfig) (crateName : String) : Option String :=
  (c.versions.find? crateName).orElse fun _ => c.versions.find? fallbackKey

/-- Where a runtime crate comes from. -/
def location (c : RuntimeConfig) (crateName : String) : Location :=
  match c.relativePath with
  | some path => .directory path (c.pinned? crateName)
  | none => .registry ((c.pinned? crateName).getD defaultVersion)

def runtimeCrate (c : RuntimeConfig) (name : String) (scope : Scope) : CrateDependency :=
  CrateDependency.new (c.crateName name) (c.location (c.crateName name)) scope

def smithyTypes (c : RuntimeConfig) : CrateDependency := c.runtimeCrate "smithy-types" .compile

def smithyHttpServer (c : RuntimeConfig) : CrateDependency :=
  c.runtimeCrate "smithy-http-server" .compile

def smithyJson (c : RuntimeConfig) : CrateDependency := c.runtimeCrate "smithy-json" .compile

def smithyXml (c : RuntimeConfig) : CrateDependency := c.runtimeCrate "smithy-xml" .compile

/-- The runtime interface with what clients need. -/
def smithyRuntimeApi (c : RuntimeConfig) : CrateDependency :=
  let d := c.runtimeCrate "smithy-runtime-api" .compile
  { d with features := d.features.add "client" }

end RuntimeConfig

end Cratewright
