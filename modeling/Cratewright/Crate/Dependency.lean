/-
Dependencies on crates.

A dependency says which crate generated code needs, where it comes from, in which scope,
and with which features. Dependencies of one key ask for the same crate and can be merged:
features add up, and default features or being optional remain only if both agree.
-/
import Cratewright.Error

namespace Cratewright

/-- The part of a build that needs a crate. -/
inductive Scope where
  | build
  | cfgUnstable
  | compile
  | dev
deriving DecidableEq, Inhabited

namespace Scope

/-- The position of a scope in their order. -/
def rank : Scope → Nat
  | build => 0
  | cfgUnstable => 1
  | compile => 2
  | dev => 3

/-- The scope in a dependency's text. -/
def label : Scope → String
  | build => "Build"
  | cfgUnstable => "CfgUnstable"
  | compile => "Compile"
  | dev => "Dev"

instance : Ord Scope := ⟨compareOn rank⟩

instance : Std.TransOrd Scope := inferInstanceAs (Std.TransCmp (compareOn rank))

theorem rank_injective {a b : Scope} (h : a.rank = b.rank) : a = b := by
  cases a <;> cases b <;> simp_all [rank]

instance : Std.LawfulEqOrd Scope where
  eq_of_compare h := rank_injective (Std.LawfulEqOrd.eq_of_compare (α := Nat) h)

end Scope

/-- Where a crate comes from. -/
inductive Location where
  /-- The registry, at a version. -/
  | registry (version : String)
  /-- A directory that holds the crate's own, with a version or without. -/
  | directory (base : String) (version : Option String)
deriving DecidableEq, Inhabited

namespace Location

/-- The position of a location's kind in their order. -/
def rank : Location → Nat
  | registry _ => 0
  | directory .. => 1

/-- The text that every location has: a version or a directory. -/
def place : Location → String
  | registry version => version
  | directory base _ => base

/-- The version that a directory may have. -/
def override : Location → Option String
  | registry _ => none
  | directory _ version => version

instance : Ord Location :=
  ⟨compareLex (compareOn rank) (compareLex (compareOn place) (compareOn override))⟩

instance : Std.TransOrd Location :=
  inferInstanceAs (Std.TransCmp
    (compareLex (compareOn rank) (compareLex (compareOn place) (compareOn override))))

instance : Std.LawfulEqOrd Location where
  eq_of_compare {a b} h := by
    have h : compareLex (compareOn rank) (compareLex (compareOn place) (compareOn override)) a b
        = .eq := h
    simp only [compareLex, compareOn, Ordering.then_eq_eq] at h
    obtain ⟨hr, hp, ho⟩ := h
    have hr := Std.LawfulEqOrd.eq_of_compare hr
    have hp := Std.LawfulEqOrd.eq_of_compare hp
    have ho := Std.LawfulEqOrd.eq_of_compare ho
    cases a <;> cases b <;> simp_all [rank, place, override]

end Location

/-- What tells dependencies apart: those of one key are merged. -/
structure DependencyKey where
  name : String
  location : Location
  scope : Scope
deriving DecidableEq

namespace DependencyKey

instance : Ord DependencyKey :=
  ⟨compareLex (compareOn name) (compareLex (compareOn location) (compareOn scope))⟩

instance : Std.TransOrd DependencyKey :=
  inferInstanceAs (Std.TransCmp
    (compareLex (compareOn name) (compareLex (compareOn location) (compareOn scope))))

instance : Std.LawfulEqOrd DependencyKey where
  eq_of_compare {a b} h := by
    have h : compareLex (compareOn name) (compareLex (compareOn location) (compareOn scope)) a b
        = .eq := h
    simp only [compareLex, compareOn, Ordering.then_eq_eq] at h
    obtain ⟨hn, hl, hs⟩ := h
    cases a
    cases b
    simp only [mk.injEq]
    exact ⟨Std.LawfulEqOrd.eq_of_compare hn, Std.LawfulEqOrd.eq_of_compare hl,
      Std.LawfulEqOrd.eq_of_compare hs⟩

end DependencyKey

/-- A dependency on a crate. -/
structure CrateDependency where
  /-- The name that the crate is published under. -/
  name : String
  location : Location
  scope : Scope
  /-- Whether the crate is only built when a feature asks for it. -/
  optional : Bool
  features : SortedSet String
  /-- Whether the crate's default features stay on. -/
  defaultFeatures : Bool
  /-- The name that code refers to the crate by. -/
  importName : String
deriving DecidableEq

namespace CrateDependency

/-- The features that only a development dependency may have. -/
def devOnlyFeatures : List String := ["test-util"]

/-- The version of a crate in a directory that states none. -/
def localVersion : String := "local"

/-- The name that code refers to a crate by unless it is renamed. -/
def defaultImportName (name : String) : String := Text.replaceChar '-' '_' name

/-- A dependency with default features and no others. -/
def new (name : String) (location : Location) (scope : Scope := .compile) : CrateDependency where
  name
  location
  scope
  optional := false
  features := ∅
  defaultFeatures := true
  importName := defaultImportName name

/-- A development dependency with features. -/
def dev (name : String) (location : Location) (features : List String) : CrateDependency :=
  { new name location .dev with features := SortedSet.ofList features }

/-- The key that dependencies on the same crate share. -/
def key (d : CrateDependency) : DependencyKey := ⟨d.name, d.location, d.scope⟩

/-- The version that is reported. -/
def version (d : CrateDependency) : String :=
  match d.location with
  | .registry version => version
  | .directory _ version => version.getD localVersion

/-- Refuses a feature for development outside the scope of development. -/
def validate (d : CrateDependency) : Except Error CrateDependency :=
  if d.scope = .dev then .ok d
  else
    match devOnlyFeatures.find? d.features.contains with
    | some feature => .error (.devOnlyFeature d.name feature)
    | none => .ok d

/-- The dependency with one more feature. -/
def withFeature (d : CrateDependency) (feature : String) : Except Error CrateDependency :=
  validate { d with features := d.features.add feature }

/-- The dependency in another scope. -/
def withScope (d : CrateDependency) (scope : Scope) : Except Error CrateDependency :=
  validate { d with scope }

/-- The dependency in the scope of development. -/
def toDev (d : CrateDependency) : CrateDependency := { d with scope := .dev }

/-- The dependency with the default features off. -/
def withoutDefaultFeatures (d : CrateDependency) : CrateDependency :=
  { d with defaultFeatures := false }

def toOptional (d : CrateDependency) : CrateDependency := { d with optional := true }

/-- The dependency under another name in code. -/
def withImportName (d : CrateDependency) (importName : String) : CrateDependency :=
  { d with importName }

/-- The lesser of two texts. -/
def lesser (a b : String) : String := if (compare a b).isLE then a else b

/-- The text of a dependency. -/
def text (d : CrateDependency) : String :=
  let place :=
    match d.location with
    | .registry version => "version = " ++ Text.quoted version
    | .directory base _ => "path = \"" ++ base ++ "/" ++ d.name ++ "\""
  let features :=
    if d.features.isEmpty then ""
    else ", features = [" ++ ",".intercalate (d.features.toList.map Text.quoted) ++ "]"
  d.name ++ " = \x7b " ++ place ++ features ++ ", scope = " ++ d.scope.label ++ " \x7d"

/-- What both dependencies ask of the same crate. -/
def merge (a b : CrateDependency) : Except Error CrateDependency :=
  if a.key = b.key then
    .ok {
      name := a.name
      location := a.location
      scope := a.scope
      optional := a.optional && b.optional
      features := a.features.union b.features
      defaultFeatures := a.defaultFeatures && b.defaultFeatures
      importName := lesser a.importName b.importName }
  else .error (.mergeKeyMismatch a.text b.text)

end CrateDependency

/-- A dependency field by field, before it is checked. -/
structure DependencySpec where
  name : String
  location : Location
  scope : Scope
  optional : Bool
  features : SortedSet String
  defaultFeatures : Bool
  /-- The name in code; the usual one if there is none. -/
  importName : Option String

/-- The dependency, if its features are allowed in its scope. -/
def DependencySpec.build (s : DependencySpec) : Except Error CrateDependency :=
  CrateDependency.validate {
    name := s.name
    location := s.location
    scope := s.scope
    optional := s.optional
    features := s.features
    defaultFeatures := s.defaultFeatures
    importName := s.importName.getD (CrateDependency.defaultImportName s.name) }

end Cratewright
