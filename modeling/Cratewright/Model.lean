/-
Service models.

A model maps identifiers to shapes: services, resources, operations and structures, and
others of which the generators only know that they exist. `Model.operations` walks from a
service through its resources; the walk ends because it visits no resource twice.
-/
import Cratewright.Error

namespace Cratewright

/-- The traits applied to a shape or member, each with its value. -/
abbrev Traits := SortedMap ShapeId Json

structure ServiceShape where
  version : Option String := none
  /-- The operations bound to the service itself. -/
  operations : List ShapeId := []
  /-- The resources bound to the service. -/
  resources : List ShapeId := []
  traits : Traits := ∅
deriving DecidableEq

structure ResourceShape where
  create : Option ShapeId := none
  put : Option ShapeId := none
  read : Option ShapeId := none
  update : Option ShapeId := none
  delete : Option ShapeId := none
  list : Option ShapeId := none
  /-- The operations on one instance. -/
  operations : List ShapeId := []
  /-- The operations on all instances. -/
  collectionOperations : List ShapeId := []
  /-- The child resources. -/
  resources : List ShapeId := []
  traits : Traits := ∅
deriving DecidableEq

/-- Every operation of the resource itself. -/
def ResourceShape.allOperations (r : ResourceShape) : List ShapeId :=
  [r.create, r.put, r.read, r.update, r.delete, r.list].filterMap id ++
    r.operations ++ r.collectionOperations

structure OperationShape where
  input : Option ShapeId := none
  output : Option ShapeId := none
  traits : Traits := ∅
deriving DecidableEq

/-- A member of a structure. -/
structure MemberShape where
  /-- The shape of the member's values. -/
  target : ShapeId
  traits : Traits := ∅
deriving DecidableEq

structure StructureShape where
  members : SortedMap String MemberShape := ∅
  traits : Traits := ∅
deriving DecidableEq

/-- A shape of a model. -/
inductive Shape where
  | service (s : ServiceShape)
  | resource (s : ResourceShape)
  | operation (s : OperationShape)
  | struct (s : StructureShape)
  /-- A shape that the generators do not look into. -/
  | other
deriving DecidableEq

/-- The traits of a shape, if they are known. -/
def Shape.traits? : Shape → Option Traits
  | service s => some s.traits
  | resource s => some s.traits
  | operation s => some s.traits
  | struct s => some s.traits
  | other => none

/-- A model. -/
structure Model where
  /-- The version of the language that the model is written in. -/
  smithy : String := "2.0"
  shapes : SortedMap ShapeId Shape := ∅
deriving DecidableEq

/-- A member of an operation's input. -/
structure InputMember where
  id : ShapeId
  target : ShapeId
  traits : List ShapeId
deriving DecidableEq

/-! ### Identifiers with a meaning -/

/-- The namespace of the protocol traits. -/
def protocolSpace : String := "aws.protocols"

/-- The protocol traits that need no definition in the model. -/
def knownProtocols : List String :=
  ["awsJson1_0", "awsJson1_1", "awsQuery", "ec2Query", "restJson1", "restXml"]

/-- The trait of members that make a request idempotent. -/
def idempotencyTokenTrait : ShapeId := ⟨"smithy.api", "idempotencyToken", none⟩

/-- The trait of services whose errors clients of an older protocol understand. -/
def queryCompatibleTrait : ShapeId := ⟨protocolSpace, "awsQueryCompatible", none⟩

/-- The trait of traits that are protocols. -/
def protocolDefinitionTrait : ShapeId := ⟨"smithy.api", "protocolDefinition", none⟩

namespace Model

/-! ### Shapes and traits -/

/-- The model in which an identifier has the given shape. -/
def insert (m : Model) (id : ShapeId) (shape : Shape) : Model :=
  { m with shapes := m.shapes.insert id shape }

/-- The shape of an identifier. -/
def shape (m : Model) (id : ShapeId) : Except Error Shape :=
  match m.shapes.find? id with
  | some s => .ok s
  | none => .error (.unknownShape id.text)

def isService : Shape → Bool
  | .service _ => true
  | _ => false

/-- The services, in order. -/
def serviceIds (m : Model) : List ShapeId :=
  (m.shapes.entries.filter fun e => isService e.2).map (·.1)

/-- The traits applied to a shape, in order. -/
def traits (m : Model) (id : ShapeId) : Except Error (List ShapeId) := do
  let s ← m.shape id
  return (s.traits?.map SortedMap.keys).getD []

def traitValue? (m : Model) (id traitId : ShapeId) : Option Json := do
  let s ← m.shapes.find? id
  (← s.traits?).find? traitId

/-- Whether a shape carries a trait. -/
def hasTrait (m : Model) (id traitId : ShapeId) : Bool := (m.traitValue? id traitId).isSome

/-! ### Operations -/

/-- Adds the operations of the resources that are reached from those on the stack.
`unvisited` are the shapes whose operations have not been added yet. -/
def walk (m : Model) (unvisited : List ShapeId) (found : SortedSet ShapeId) :
    List ShapeId → Except Error (SortedSet ShapeId)
  | [] => .ok found
  | r :: stack =>
    match m.shapes.find? r with
    | some (.resource s) =>
      if r ∈ unvisited then
        walk m (unvisited.erase r) (found.addAll s.allOperations) (s.resources ++ stack)
      else walk m unvisited found stack
    | _ => .error (.unknownShape r.text)
termination_by stack => (unvisited.length, stack.length)
decreasing_by
  · rename_i h
    refine Prod.Lex.left _ _ ?_
    have pos := List.length_pos_of_mem h
    rw [List.length_erase_of_mem h]
    omega
  · exact Prod.Lex.right _ (Nat.lt_succ_self _)

/-- The operations of a service and of the resources it leads to, in order. -/
def operations (m : Model) (service : ShapeId) : Except Error (List ShapeId) := do
  match ← m.shape service with
  | .service s =>
    let found ← m.walk m.shapes.keys (SortedSet.ofList s.operations) s.resources
    return found.toList
  | _ => .error (.unknownShape service.text)

/-- The members of an operation's input; one without an input structure has none. -/
def inputMembers (m : Model) (operation : ShapeId) : Except Error (List InputMember) := do
  match ← m.shape operation with
  | .operation s =>
    match s.input with
    | none => return []
    | some input =>
      match m.shapes.find? input with
      | some (.struct t) =>
        return t.members.entries.map fun e =>
          ⟨input.withMember e.1, e.2.target, e.2.traits.keys⟩
      | _ => return []
  | _ => .error (.unknownShape operation.text)

/-! ### Protocols and tokens -/

/-- Whether a trait is a protocol: a known one, or one whose definition says so. -/
def isProtocol (m : Model) (id : ShapeId) : Bool :=
  (id.space == protocolSpace && knownProtocols.contains id.name) ||
    m.hasTrait id protocolDefinitionTrait

/-- The protocols that a service declares, in order. -/
def serviceProtocols (m : Model) (service : ShapeId) : Except Error (List ShapeId) := do
  return (← m.traits service).filter m.isProtocol

/-- Whether one of the operations has a token among its input; they are asked in order, and
only up to the first that has. -/
def anyToken (m : Model) : List ShapeId → Except Error Bool
  | [] => .ok false
  | operation :: rest => do
    let members ← m.inputMembers operation
    if members.any (·.traits.contains idempotencyTokenTrait) then return true else m.anyToken rest

/-- Whether some operation of a service has an idempotency token among its input. -/
def needsIdempotencyToken (m : Model) (service : ShapeId) : Except Error Bool := do
  m.anyToken (← m.operations service)

end Model

end Cratewright
