/-
Merged sets of dependencies.

A set holds one dependency for each key, stored under its own key; adding another of the
same key merges the two.
-/
import Cratewright.Crate.Dependency

namespace Cratewright

/-- Dependencies by key. -/
structure DependencySet where
  entries : SortedMap DependencyKey CrateDependency := ∅
deriving DecidableEq, Inhabited

namespace DependencySet

/-- The set without dependencies. -/
def empty : DependencySet := {}

/-- The merged dependency of a key. -/
def get? (s : DependencySet) (key : DependencyKey) : Option CrateDependency :=
  s.entries.find? key

/-- The dependencies in key order. -/
def toList (s : DependencySet) : List CrateDependency := s.entries.values

/-- Adds a dependency, merged with the one of the same key. -/
def add (s : DependencySet) (d : CrateDependency) : Except Error DependencySet :=
  match s.get? d.key with
  | none => .ok ⟨s.entries.insert d.key d⟩
  | some old => (old.merge d).map fun merged => ⟨s.entries.insert d.key merged⟩

/-- Adds dependencies one after the other. -/
def addAll (s : DependencySet) (ds : List CrateDependency) : Except Error DependencySet :=
  ds.foldlM add s

/-- Adds every dependency of another set. -/
def extend (s other : DependencySet) : Except Error DependencySet := s.addAll other.toList

/-- The first dependency of the given name and scope. -/
def find? (s : DependencySet) (name : String) (scope : Scope) : Option CrateDependency :=
  s.toList.find? fun d => d.name == name && d.scope == scope

/-- The number of dependencies. -/
def size (s : DependencySet) : Nat := s.entries.size

def isEmpty (s : DependencySet) : Bool := s.entries.isEmpty

end DependencySet

end Cratewright
