/-
Paths with slashes, as texts.

A path is read as a list of components: runs of slashes separate, and a dot counts only
at the start. `Path.normalize` resolves dots and double dots without looking at any file.
-/
import Cratewright.Text.Search

namespace Cratewright.Path

/-- A step of a path. -/
inductive Component where
  /-- The root of all directories. -/
  | root
  /-- The directory that the path starts from, written as a dot. -/
  | current
  /-- The directory above. -/
  | parent
  /-- An entry of the directory. -/
  | normal (name : String)
deriving DecidableEq

/-- The component as it is written. -/
def Component.text : Component → String
  | root => "/"
  | current => "."
  | parent => ".."
  | normal name => name

/-- The component that stands between two slashes, if anything of meaning does. -/
def component? (s : List Char) : Option Component :=
  if s = [] ∨ s = ['.'] then none
  else if s = ['.', '.'] then some .parent
  else some (.normal (String.ofList s))

/-- The start of a path that is no separated component, and the rest. -/
def split (path : List Char) : List Component × List Char :=
  match path with
  | '/' :: rest => ([.root], rest)
  | ['.'] => ([.current], [])
  | '.' :: '/' :: rest => ([.current], '/' :: rest)
  | rest => ([], rest)

def components (path : String) : List Component :=
  let (start, body) := split path.toList
  start ++ (Text.splitAt '/' body).filterMap component?

/-- Whether a path starts at the root. -/
def isAbsolute (path : String) : Bool := path.toList.head? == some '/'

/-- The path that leads along `path` from the place that `base` leads to. -/
def join (base path : String) : String :=
  if isAbsolute path then path
  else if base.isEmpty || base.toList.getLast? == some '/' then base ++ path
  else base ++ "/" ++ path

/-- The path of the given components. -/
def ofComponents (cs : List Component) : String := cs.foldl (fun p c => join p c.text) ""

/-- The name of the entry that a path leads to, if its last component is a name. -/
def fileName? (path : String) : Option String :=
  match (components path).getLast? with
  | some (.normal name) => some name
  | _ => none

/-- The pieces of a path, in reverse, less those without meaning at its end. -/
def dropIdle (pieces : List (List Char)) : List (List Char) :=
  pieces.dropWhile fun p => (component? p).isNone

/-- The path without its last component, otherwise as it was written. -/
def parent? (path : String) : Option String :=
  let (start, body) := split path.toList
  let startText := String.join (start.map Component.text)
  match dropIdle (Text.splitAt '/' body).reverse with
  | _ :: rest =>
    some (startText ++ "/".intercalate ((dropIdle rest).reverse.map String.ofList))
  | [] => if start = [.current] then some "" else none

/-- The path and those of the directories above it, from the innermost to the outermost. -/
def ancestors (path : String) : List String := climbFrom (components path).length path
where
  /-- The path and at most `n` paths above it. -/
  climbFrom : Nat → String → List String
    | 0, path => [path]
    | n + 1, path =>
      match parent? path with
      | some above => path :: climbFrom n above
      | none => [path]

/-- Every step that a path takes, with the dots that lead nowhere. -/
def steps (path : String) : List Component :=
  (if isAbsolute path then [.root] else []) ++
    ((Text.splitAt '/' path.toList).filter (! ·.isEmpty)).map fun s =>
      (component? s).getD .current

/-! ### Normal form -/

/-- Adds a component to a normal path that is given in reverse. -/
def climb (done : List Component) (c : Component) : List Component :=
  match c with
  | .current => done
  | .parent =>
    match done with
    | .normal _ :: rest => rest
    | .root :: _ => done
    | _ => .parent :: done
  | c => c :: done

/-- The path without dots, and with double dots only where they climb out of where it
starts. A path that leads nowhere else is a single dot. -/
def normalize (path : String) : String :=
  match (components path).foldl climb [] with
  | [] => "."
  | done => ofComponents done.reverse

end Cratewright.Path
