/-
Drafts of models.

A draft is put together call by call: services with their protocols, operations with the
members of their input, and definitions of protocols. `Draft.text` is the model document.
-/
import Cratewright.Json.Printer
import Cratewright.Model

namespace Cratewright

inductive DraftShape where
  /-- A service that declares protocols, and the operations bound to it so far. -/
  | service (protocols : SortedSet String) (operations : List String)
  /-- An operation with its input. -/
  | operation (input : String)
  /-- The input of an operation; a member is an idempotency token or not. -/
  | input (members : SortedMap String Bool)
  | protocolDefinition

/-- A draft of a model. -/
structure Draft where
  shapes : SortedMap String DraftShape := ∅

namespace Draft

/-- The draft without shapes. -/
def empty : Draft := {}

/-- The draft in which an identifier has the given shape. -/
def put (d : Draft) (id : String) (s : DraftShape) : Draft := ⟨d.shapes.insert id s⟩

/-- Adds a service. -/
def service (d : Draft) (id : String) (protocols : List String) : Draft :=
  d.put id (.service (SortedSet.ofList protocols) [])

/-- Binds an operation to a service, if the draft has it. -/
def bind (d : Draft) (service operation : String) : Draft :=
  match d.shapes.find? service with
  | some (.service protocols operations) =>
    d.put service (.service protocols (operations ++ [operation]))
  | _ => d

/-- Adds an operation of a service, and its input with the given members. -/
def operation (d : Draft) (service operation : String) (members : List (String × Bool)) :
    Draft :=
  let input := operation ++ "Input"
  ((d.put input (.input (SortedMap.ofList members))).put operation
    (.operation input)).bind service operation

/-- Adds the definition of a protocol. -/
def protocolDefinition (d : Draft) (id : String) : Draft := d.put id .protocolDefinition

/-- A service for the weather with two operations, one of which takes a token. -/
def weather : Draft :=
  ((empty.service "example.weather#Weather" ["aws.protocols#restJson1"]).operation
    "example.weather#Weather" "example.weather#GetCity" [("cityId", false)]).operation
    "example.weather#Weather" "example.weather#CreateForecast"
    [("cityId", false), ("clientToken", true)]

/-! ### The document -/

/-- A reference to a shape. -/
def reference (id : String) : Json := .object [("target", .text id)]

/-- Traits without values. -/
def bareTraits (ids : SortedSet String) : Json :=
  .object (ids.toList.map fun id => (id, .object []))

/-- A member of an input. -/
def memberJson (isToken : Bool) : Json :=
  .object [
    ("target", .text "smithy.api#String"),
    ("traits", bareTraits
      (SortedSet.ofList (if isToken then [idempotencyTokenTrait.text] else [])))]

/-- A shape of the document, with its fields in order. -/
def shapeJson : DraftShape → Json
  | .service protocols operations => .object [
    ("operations", .list (operations.map reference)),
    ("traits", bareTraits protocols),
    ("type", .text "service"),
    ("version", .text "2024-01-01")]
  | .operation input => .object [("input", reference input), ("type", .text "operation")]
  | .input members => .object [
    ("members", .object (members.entries.map fun e => (e.1, memberJson e.2))),
    ("type", .text "structure")]
  | .protocolDefinition => .object [
    ("traits", bareTraits
      (SortedSet.ofList [protocolDefinitionTrait.text, "smithy.api#trait"])),
    ("type", .text "structure")]

/-- The document. -/
def toJson (d : Draft) : Json :=
  .object [
    ("shapes", .object (d.shapes.entries.map fun e => (e.1, shapeJson e.2))),
    ("smithy", .text "2.0")]

/-- The text of the document. -/
def text (d : Draft) : String := d.toJson.render

end Draft

end Cratewright
