/-
Fragments of source text that become part of the generated crate.

A fragment has a name in the module that it is written into, and the two make up its key.
Other code refers to it by a path and then needs it; what its own script needs, and some
extra requirements, come with it.

`FragmentKind` says what a type of fragments has to offer; scripts of such fragments may
refer to each other in circles. In the type `Fragment` a script holds whole fragments.

A generator has places, called sections, at which it asks its customizations in their order
what they have to say. `Customization.compose` puts together what they say; if none of them
says anything, nothing is said.
-/
import Cratewright.Digest.Sha256
import Cratewright.Source.Module
import Cratewright.Source.Writer

namespace Cratewright

/-- What tells fragments apart. -/
structure FragmentKey where
  /-- The path of the module that the fragment is written into. -/
  modulePath : String
  name : String
deriving DecidableEq

namespace FragmentKey

instance : Ord FragmentKey := ⟨compareLex (compareOn modulePath) (compareOn name)⟩

instance : Std.TransOrd FragmentKey :=
  inferInstanceAs (Std.TransCmp (compareLex (compareOn modulePath) (compareOn name)))

instance : Std.LawfulEqOrd FragmentKey where
  eq_of_compare {a b} h := by
    have h : compareLex (compareOn modulePath) (compareOn name) a b = .eq := h
    simp only [compareLex, compareOn, Ordering.then_eq_eq] at h
    cases a
    cases b
    simp only [mk.injEq]
    exact ⟨Std.LawfulEqOrd.eq_of_compare h.1, Std.LawfulEqOrd.eq_of_compare h.2⟩

/-- The key as a path. -/
def text (k : FragmentKey) : String := k.modulePath ++ "::" ++ k.name

end FragmentKey

/-- A type of fragments. -/
class FragmentKind (φ : Type) where
  name : φ → String
  /-- The module that the fragment is written into. -/
  home : φ → SourceModule
  /-- The path that code refers to the fragment by. -/
  symbol : φ → String
  /-- What the fragment needs besides what its script asks for. -/
  extra : φ → List (Requirement φ)
  /-- The script that writes the fragment. -/
  body : φ → List (Command φ)

namespace FragmentKind

variable {φ : Type} [FragmentKind φ]

/-- What tells the fragment from others. -/
def key (f : φ) : FragmentKey := ⟨(home f).path, name f⟩

/-- The path of the fragment, which needs the fragment. -/
def item (f : φ) : ItemPath φ := ⟨symbol f, some (.fragment f)⟩

/-- What the fragment's script leaves behind when it is carried out on its own. -/
def written (f : φ) : Writer φ := Writer.runAll {} (body f)

/-- The version of a fragment: a digest of what its script writes. -/
def version (f : φ) : String := Digest.sha256Hex (written f).contents

/-- What the fragment brings in: what its script asks for, and the extra requirements. -/
def needs (f : φ) : List (Requirement φ) := (written f).requirements ++ extra f

end FragmentKind

/-- A fragment whose script holds the fragments that it refers to. -/
structure Fragment where
  name : String
  home : SourceModule
  symbol : String
  extra : List (Requirement Fragment)
  body : List (Command Fragment)

namespace Fragment

instance : FragmentKind Fragment where
  name
  home
  symbol
  extra
  body

/-- A fragment that code refers to by its name in its module. -/
def named (name : String) (home : SourceModule) (extra : List (Requirement Fragment))
    (body : List (Command Fragment)) : Fragment where
  name
  home
  symbol := home.path ++ "::" ++ name
  extra
  body

/-- What tells the fragment from others. -/
def key (f : Fragment) : FragmentKey := FragmentKind.key f

/-- The path of the fragment, which needs the fragment. -/
def item (f : Fragment) : ItemPath Fragment := FragmentKind.item f

end Fragment

/-! ### Customizations -/

/-- A contributor to the sections of a generator. -/
structure Customization (σ : Type) where
  name : String
  /-- What is said at a section. -/
  contribute : σ → Snippet Fragment

namespace Customization

variable {σ : Type}

/-- What the customizations say at a section, one after the other. -/
def compose (cs : List (Customization σ)) (s : σ) : Snippet Fragment :=
  match cs.filterMap (·.contribute s) with
  | [] => none
  | parts => some parts.flatten

/-- The names of customizations, in order. -/
def names (cs : List (Customization σ)) : List String := cs.map (·.name)

end Customization

end Cratewright
