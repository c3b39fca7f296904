/-
Trees of files.

A place in a tree is the list of names that leads to it from the root. A path is followed
from a directory one component after the other, and everything on the way has to be a
directory.
-/
import Cratewright.Files.Access
import Cratewright.SortedMap

namespace Cratewright

/-- What a file holds. -/
inductive FileContents where
  | text (s : String)
  /-- Bytes that are no text. -/
  | binary
deriving DecidableEq

/-- What bytes mean. -/
def FileContents.ofBytes (bytes : ByteArray) : FileContents :=
  match String.fromUTF8? bytes with
  | some s => text s
  | none => binary

/-- What stands at a place. -/
inductive FileNode where
  | directory
  | file (contents : FileContents)
deriving DecidableEq

/-- A tree of files, in which one directory is the current one. -/
structure FileTree where
  /-- What stands at each place but the root, which is a directory. -/
  nodes : SortedMap (List String) FileNode := ∅
  current : List String := []

namespace FileTree

/-- What stands at a place. -/
def node? (t : FileTree) (place : List String) : Option FileNode :=
  if place.isEmpty then some .directory else t.nodes.find? place

/-- The tree with something at a place. -/
def put (t : FileTree) (place : List String) (n : FileNode) : FileTree :=
  { t with nodes := t.nodes.insert place n }

/-- Checks that a directory stands at a place. -/
def enter (t : FileTree) (place : List String) : Except FileFault Unit :=
  match t.node? place with
  | some .directory => .ok ()
  | some (.file _) => .error .notDirectory
  | none => .error .absent

/-- The place that a component leads to. -/
def step (place : List String) : Path.Component → List String
  | .root => []
  | .current => place
  | .parent => place.dropLast
  | .normal name => place ++ [name]

/-- The bytes that a name can have. -/
def nameLimit : Nat := 255

/-- The bytes that a path can have. -/
def pathLimit : Nat := 4095

/-- Checks that a directory can have an entry of a name. -/
def checkName : Path.Component → Except FileFault Unit
  | .normal name => if name.utf8ByteSize ≤ nameLimit then .ok () else .error .nameTooLong
  | _ => .ok ()

/-- Checks that a text can be a path; `onNull` is the fault of one that holds the null
character. -/
def checkPath (onNull : FileFault) (path : String) : Except FileFault Unit :=
  if path.toList.contains '\x00' then .error onNull
  else if path.isEmpty then .error .absent
  else if pathLimit < path.utf8ByteSize then .error .nameTooLong
  else .ok ()

/-- The place that components lead to. It need not hold anything. -/
def walk (t : FileTree) : List String → List Path.Component → Except FileFault (List String)
  | place, [] => .ok place
  | place, c :: rest => do
    t.enter place
    checkName c
    t.walk (step place c) rest

/-- The directory that a path leads to from a place. -/
def directory (t : FileTree) (start : List String) (path : String) :
    Except FileFault (List String) := do
  checkPath .holdsNull path
  let place ← t.walk start (Path.components path)
  t.enter place
  return place

/-- The place that a path leads to from a directory. -/
def place (t : FileTree) (base path : String) : Except FileFault (List String) := do
  let start ← t.directory t.current base
  checkPath .invalidPath path
  t.walk start (Path.components path)

/-! ### Operations -/

/-- Makes one directory. Those above it have to be there. -/
def make (t : FileTree) (base path : String) : Except FileFault FileTree := do
  let start ← t.directory t.current base
  checkPath .holdsNull path
  let steps := Path.steps path
  let above ← t.walk start steps.dropLast
  t.enter above
  match steps.getLast? with
  | some (.normal name) =>
    checkName (.normal name)
    let new := above ++ [name]
    if (t.node? new).isSome then .error .occupied else return t.put new .directory
  | _ => .error .occupied

/-- The text of the file that a path leads to. -/
def read (t : FileTree) (base path : String) : Except FileFault String := do
  match t.node? (← t.place base path) with
  | some (.file (.text s)) => .ok s
  | some (.file .binary) => .error .notText
  | some .directory => .error .isDirectory
  | none => .error .absent

/-- Puts a file where a path leads. The directory that it is put into has to be there. -/
def write (t : FileTree) (base path : String) (contents : FileContents) :
    Except FileFault FileTree := do
  let place ← t.place base path
  match t.node? place with
  | some .directory => .error .isDirectory
  | _ => return t.put place (.file contents)

/-- The tree that an operation leaves: the old one if it failed. -/
def settle (t : FileTree) : Except FileFault FileTree → Except FileFault Unit × FileTree
  | .ok new => (.ok (), new)
  | .error fault => (.error fault, t)

instance : FileAccess (StateM FileTree) where
  checkDirectory base path := fun t =>
    (do let start ← t.directory t.current base
        let _ ← t.directory start path, t)
  makeDirectory base path := fun t => t.settle (t.make base path)
  readText base path := fun t => (t.read base path, t)
  writeText base path text := fun t => t.settle (t.write base path (.text text))

/-! ### Listing -/

/-- The files below a place, each with the names that lead to it from there. -/
def filesBelow (t : FileTree) (place : List String) : List (List String × FileContents) :=
  t.nodes.entries.filterMap fun (names, n) =>
    match n, place.isPrefixOf? names with
    | .file contents, some rest => some (rest, contents)
    | _, _ => none

/-- Why the files of a directory could not be read. -/
inductive ReadFault where
  /-- The path leads to no directory. -/
  | listing (path : String)
  /-- A file holds no text. -/
  | reading (path : String)
deriving DecidableEq

/-- The fault in words. -/
def ReadFault.message : ReadFault → String
  | listing path => "listing " ++ path
  | reading path => "reading " ++ path

/-- The texts of all files below a directory, by their paths from there. The files of a
directory are read before those of the directories in it. -/
def readAll (t : FileTree) (root : String) : Except ReadFault (SortedMap String String) := do
  let place ← (t.directory t.current root).mapError fun _ => .listing root
  ((t.filesBelow place).mergeSort fun a b => a.1.length ≤ b.1.length).foldlM
    (fun files (names, contents) =>
      match contents with
      | .text s => .ok (files.insert ("/".intercalate names) s)
      | .binary => .error (.reading (names.foldl Path.join root)))
    SortedMap.empty

end FileTree

end Cratewright
