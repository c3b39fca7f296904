/-
Modules of a generated crate.

Every module stands at the top of its crate, so its name gives the path that code refers
to it by and the file that holds it.
-/
namespace Cratewright

/-- Who may use a module. -/
inductive Visibility where
  /-- Everyone. -/
  | everyone
  /-- The crate that it is part of. -/
  | withinCrate
  /-- Only the module around it. -/
  | hidden
deriving DecidableEq, Inhabited

/-- The words before the declaration of a module. -/
def Visibility.keyword : Visibility → String
  | everyone => "pub "
  | withinCrate => "pub(crate) "
  | hidden => ""

/-- A module of a generated crate. -/
structure SourceModule where
  name : String
  visibility : Visibility
deriving DecidableEq, Inhabited

namespace SourceModule

/-- The module of the service's configuration. -/
def config : SourceModule := ⟨"config", .everyone⟩

/-- The module of what speaks the service's protocol. -/
def protocol : SourceModule := ⟨"protocol", .withinCrate⟩

/-- The path that code refers to the module by. -/
def path (m : SourceModule) : String := "crate::" ++ m.name

/-- The file of the module, from the root of the crate. -/
def file (m : SourceModule) : String := "src/" ++ m.name ++ ".rs"

/-- The line that declares the module. -/
def declaration (m : SourceModule) : String := m.visibility.keyword ++ "mod " ++ m.name ++ ";"

end SourceModule

end Cratewright
