/-
Models as JSON.

`Model.parse` reads a model document. A shape is read as a whole value, up to its type as
soon as that is met, before its fields are looked at. `Model.toJson` writes a model so that
reading it gives the model again.
-/
import Cratewright.Json.Printer
import Cratewright.Json.Record
import Cratewright.Model

namespace Cratewright

open Json

/-- The kinds of shapes that the generators look into. -/
inductive ShapeKind where
  | service
  | resource
  | operation
  | struct
  | other
deriving DecidableEq

def ShapeKind.ofName (name : String) : ShapeKind :=
  if name = "service" then .service
  else if name = "resource" then .resource
  else if name = "operation" then .operation
  else if name = "structure" then .struct
  else .other

/-! ### Fields from values -/

/-- Replaces a part of a record by what a value gives. -/
def setFrom {σ α : Type} (set : σ → α → σ) (item : Json → Except Fault α) (acc : σ) :
    FromValue σ :=
  fun v => (item v).map (set acc)

/-- The fields of a reference to a shape. -/
def referenceLayout : Layout ShapeId (FromValue ShapeId) where
  name := "Target"
  start := default
  fields := [{ name := "target", required := true, read := setFrom (fun _ v => v) asId }]

/-- The traits that an object lists. -/
def asTraits : Json → Except Fault Traits := asMap idOfText fun v => .ok v.canonical

/-- The fields of a member. -/
def memberLayout : Layout MemberShape (FromValue MemberShape) where
  name := "MemberShape"
  start := { target := default }
  fields := [
    { name := "target", required := true
      read := setFrom (fun m v => { m with target := v }) asId },
    { name := "traits", required := false
      read := setFrom (fun m v => { m with traits := v }) asTraits }]

/-- The fields of a service. -/
def serviceLayout : Layout ServiceShape (FromValue ServiceShape) where
  name := "ServiceShape"
  start := {}
  fields := [
    { name := "version", required := false
      read := setFrom (fun s v => { s with version := v }) (asOption asText) },
    { name := "operations", required := false
      read := setFrom (fun s v => { s with operations := v }) (asList referenceLayout.decode) },
    { name := "resources", required := false
      read := setFrom (fun s v => { s with resources := v }) (asList referenceLayout.decode) },
    { name := "traits", required := false
      read := setFrom (fun s v => { s with traits := v }) asTraits }]

/-- A field of a resource that refers to at most one shape. -/
def resourceField (name : String) (set : ResourceShape → Option ShapeId → ResourceShape) :
    Field ResourceShape (FromValue ResourceShape) where
  name
  required := false
  read := setFrom set (asOption referenceLayout.decode)

/-- The fields of a resource. -/
def resourceLayout : Layout ResourceShape (FromValue ResourceShape) where
  name := "ResourceShape"
  start := {}
  fields := [
    resourceField "create" fun s v => { s with create := v },
    resourceField "put" fun s v => { s with put := v },
    resourceField "read" fun s v => { s with read := v },
    resourceField "update" fun s v => { s with update := v },
    resourceField "delete" fun s v => { s with delete := v },
    resourceField "list" fun s v => { s with list := v },
    { name := "operations", required := false
      read := setFrom (fun s v => { s with operations := v }) (asList referenceLayout.decode) },
    { name := "collectionOperations", required := false
      read := setFrom (fun s v => { s with collectionOperations := v })
        (asList referenceLayout.decode) },
    { name := "resources", required := false
      read := setFrom (fun s v => { s with resources := v }) (asList referenceLayout.decode) },
    { name := "traits", required := false
      read := setFrom (fun s v => { s with traits := v }) asTraits }]

/-- The fields of an operation. -/
def operationLayout : Layout OperationShape (FromValue OperationShape) where
  name := "OperationShape"
  start := {}
  fields := [
    { name := "input", required := false
      read := setFrom (fun s v => { s with input := v }) (asOption referenceLayout.decode) },
    { name := "output", required := false
      read := setFrom (fun s v => { s with output := v }) (asOption referenceLayout.decode) },
    { name := "traits", required := false
      read := setFrom (fun s v => { s with traits := v }) asTraits }]

/-- The fields of a structure. -/
def structureLayout : Layout StructureShape (FromValue StructureShape) where
  name := "StructureShape"
  start := {}
  fields := [
    { name := "members", required := false
      read := setFrom (fun s v => { s with members := v }) (asMap .ok memberLayout.decode) },
    { name := "traits", required := false
      read := setFrom (fun s v => { s with traits := v }) asTraits }]

/-- The shape of a kind whose other fields a value gives. The fields of an unknown kind do not
matter, but a list may not give any. -/
def Shape.decode (kind : ShapeKind) (v : Json) : Except Fault Shape :=
  match kind with
  | .service => (serviceLayout.decode v).map .service
  | .resource => (resourceLayout.decode v).map .resource
  | .operation => (operationLayout.decode v).map .operation
  | .struct => (structureLayout.decode v).map .struct
  | .other =>
    match v with
    | .list (item :: items) =>
      .error (.invalidLength (item :: items).length (elements 0 ++ " in sequence"))
    | _ => .ok .other

/-! ### Shapes from text -/

/-- Reads the type of a shape. -/
def readKind (s : List Char) : Except Fault (ShapeKind × List Char) :=
  match skipSpace s with
  | [] => .error .endInValue
  | c :: rest =>
    if c = '"' then (readText rest).map fun p => (.ofName p.1, p.2)
    else .error (wrongType "variant identifier" c rest)

/-- Reads one field of a shape: its type, or a value to be looked at later. -/
def readShapeField (depth : Nat) (acc : Option ShapeKind × List (String × Json)) (key : String)
    (s : List Char) : Except Fault ((Option ShapeKind × List (String × Json)) × List Char) :=
  if key = "type" then
    if acc.1.isSome then .error (.duplicateField key)
    else do
      let (kind, s) ← readKind (← expectColon s)
      return ((some kind, acc.2), s)
  else do
    let (v, s) ← readValue depth (← expectColon s)
    return ((acc.1, (key, v) :: acc.2), s)

/-- Reads a shape: an object, or the list of its type and its fields in order. -/
def Shape.read (depth : Nat) (s : List Char) : Except Fault (Shape × List Char) :=
  match skipSpace s with
  | [] => .error .endInValue
  | c :: rest =>
    if c = '[' then
      match depth with
      | 0 => .error .tooDeep
      | depth + 1 => do
        match ← nextElement true rest with
        | (false, _) => .error (.missingField "type")
        | (true, s) =>
          let (kind, s) ← readKind s
          let item (items : List Json) (s : List Char) : Except Fault (List Json × List Char) :=
            (readValue depth s).map fun p => (p.1 :: items, p.2)
          let (items, s) ← foldElements item (s.length + 1) false [] s
          return (← Shape.decode kind (.list items.reverse), s)
    else if c = '\x7b' then
      match depth with
      | 0 => .error .tooDeep
      | depth + 1 => do
        let ((kind, fields), s) ←
          foldFields (readShapeField depth) (rest.length + 1) true (none, []) rest
        match kind with
        | none => .error (.missingField "type")
        | some kind => return (← Shape.decode kind (.object fields.reverse), s)
    else .error (wrongType "internally tagged enum Shape" c rest)

/-- Reads a document that is one shape. -/
def Shape.parse (document : String) : Except Error Shape :=
  (readDocument (Shape.read depthLimit) document).mapError .model

namespace Model

/-- The fields of a model. -/
def layout : Layout Model (FromText Model) where
  name := "Model"
  start := {}
  fields := [
    { name := "smithy", required := false
      read := fun m _ s => (readString s).map fun p => ({ m with smithy := p.1 }, p.2) },
    { name := "shapes", required := false
      read := fun m depth s =>
        (readMap idOfText Shape.read depth s).map fun p => ({ m with shapes := p.1 }, p.2) }]

/-- Reads a model document. -/
def parse (document : String) : Except Error Model :=
  (readDocument (layout.read depthLimit) document).mapError .model

end Model

/-! ### Writing -/

def referenceJson (id : ShapeId) : Json := .object [("target", .text id.text)]

/-- Several references. -/
def referencesJson (ids : List ShapeId) : Json := .list (ids.map referenceJson)

/-- A field that is left out if there is nothing to write. -/
def optionalField {α : Type} (name : String) (write : α → Json) (a : Option α) :
    List (String × Json) :=
  (a.map fun v => (name, write v)).toList

/-- The traits as an object. -/
def traitsJson (traits : Traits) : Json := .object (traits.entries.map fun e => (e.1.text, e.2))

/-- A member as an object. -/
def MemberShape.toJson (m : MemberShape) : Json :=
  .object [("target", .text m.target.text), ("traits", traitsJson m.traits)]

/-- A shape as an object. -/
def Shape.toJson : Shape → Json
  | service s => .object <|
    ("type", .text "service") :: optionalField "version" Json.text s.version ++
      [("operations", referencesJson s.operations), ("resources", referencesJson s.resources),
        ("traits", traitsJson s.traits)]
  | resource s => .object <|
    ("type", .text "resource") :: optionalField "create" referenceJson s.create ++
      optionalField "put" referenceJson s.put ++ optionalField "read" referenceJson s.read ++
      optionalField "update" referenceJson s.update ++
      optionalField "delete" referenceJson s.delete ++ optionalField "list" referenceJson s.list ++
      [("operations", referencesJson s.operations),
        ("collectionOperations", referencesJson s.collectionOperations),
        ("resources", referencesJson s.resources), ("traits", traitsJson s.traits)]
  | operation s => .object <|
    ("type", .text "operation") :: optionalField "input" referenceJson s.input ++
      optionalField "output" referenceJson s.output ++ [("traits", traitsJson s.traits)]
  | struct s => .object
    [("type", .text "structure"),
      ("members", .object (s.members.entries.map fun e => (e.1, e.2.toJson))),
      ("traits", traitsJson s.traits)]
  | other => .object [("type", .text "other")]

/-- A model as an object. -/
def Model.toJson (m : Model) : Json :=
  .object
    [("smithy", .text m.smithy),
      ("shapes", .object (m.shapes.entries.map fun e => (e.1.text, e.2.toJson)))]

end Cratewright
