/-
Scripts that write source text.

A script is a list of commands for a writer. A template's holes are bound to texts, to
paths of items, or to further scripts; a path knows what has to be there for it to mean
something, which is a crate or a fragment of source text that is part of the generated
crate. What fragments are is left open: `φ` is their type.

A script may look at the writer that it is run with, and go on as what it sees suggests: then
what it says depends on where it stands. A `View` is all that can be seen of a writer.

A `Snippet` is what a contributor has to say at some place. Having nothing to say is not
the same as a script that writes nothing.
-/
import Cratewright.Crate.Dependency

namespace Cratewright

/-- What generated code can need. -/
inductive Requirement (φ : Type) where
  /-- A crate. -/
  | crate (d : CrateDependency)
  /-- A fragment of source text. -/
  | fragment (f : φ)

/-- The requirement without what a fragment holds. -/
def Requirement.outline {φ : Type} : Requirement φ → Requirement Unit
  | .crate d => .crate d
  | .fragment _ => .fragment ()

/-- A path that code refers to an item by, with what the item needs. -/
structure ItemPath (φ : Type) where
  path : String
  requirement : Option (Requirement φ) := none

namespace ItemPath

variable {φ : Type}

/-- The path of what is always there. -/
def primitive (path : String) : ItemPath φ := ⟨path, none⟩

/-- The root of a crate. -/
def ofCrate (d : CrateDependency) : ItemPath φ := ⟨"::" ++ d.importName, some (.crate d)⟩

/-- An item below a path. -/
def resolve (i : ItemPath φ) (item : String) : ItemPath φ :=
  { i with path := i.path ++ "::" ++ item }

/-- The last part of a path. -/
def name (i : ItemPath φ) : String :=
  match Text.afterLast? [':', ':'] i.path.toList with
  | some rest => String.ofList rest
  | none => i.path

end ItemPath

/-- What can be seen of a writer. Of a fragment that its text needs, only its presence is. -/
structure View where
  /-- The text written so far. -/
  contents : String
  /-- What the text needs, in the order of use. -/
  requirements : List (Requirement Unit)

mutual

/-- A command for a writer. -/
inductive Command (φ : Type) where
  /-- Writes a text without the margin that its lines share. -/
  | code (text : String)
  /-- Writes the lines of a text as they are. -/
  | raw (text : String)
  /-- Writes a template with its holes filled. -/
  | template (text : String) (bindings : List (String × Argument φ))
  /-- Writes an empty line. -/
  | blankLine
  /-- Writes a header, what the body writes inside braces, and the closing brace. -/
  | block (header : String) (body : List (Command φ))
  /-- Writes a text as documentation. -/
  | docs (text : String)
  /-- Writes an attribute. -/
  | attribute (text : String)
  /-- Writes what a contributor has to say. -/
  | splice (snippet : Option (List (Command φ)))
  /-- Writes nothing, but needs something to be there. -/
  | require (r : Requirement φ)
  /-- Writes nothing, because something is wrong. -/
  | fail (e : Error)
  /-- Looks at what is there, and writes what that suggests. -/
  | look (choose : View → List (Command φ))

/-- What a template's hole is bound to. -/
inductive Argument (φ : Type) where
  /-- A text. -/
  | text (t : String)
  /-- The path of an item. -/
  | item (i : ItemPath φ)
  /-- What a contributor has to say. -/
  | code (snippet : Option (List (Command φ)))

end

/-- What a contributor has to say at some place, if anything. -/
abbrev Snippet (φ : Type) := Option (List (Command φ))

end Cratewright
