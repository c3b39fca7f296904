/-
The choice of a protocol for a service.

A loader knows a family for each protocol that it supports. Of the protocols that a service
declares, the first in order that the loader supports is chosen.
-/
import Cratewright.Protocol.Family

namespace Cratewright

/-- The families of the supported protocols. -/
structure ProtocolLoader where
  families : SortedMap ShapeId ProtocolFamily

namespace ProtocolLoader

/-- The contributors that a target adds to every family. -/
def targetExtras : Target → List ProtocolCustomization
  | .client => []
  | .server => [streamPayloadCustomization]

/-- The usual families for a target, each under its own protocol. -/
def forTarget (target : Target) : ProtocolLoader where
  families :=
    let extras := targetExtras target
    SortedMap.ofList <|
      [ProtocolFamily.restJson extras, ProtocolFamily.restXml extras,
        ProtocolFamily.awsJson .json10 extras, ProtocolFamily.awsJson .json11 extras].map
      fun f => (f.protocol.id, f)

/-- The supported protocols, in order. -/
def supported (l : ProtocolLoader) : List ShapeId := l.families.keys

/-- The first of some protocols that is supported, with its family. -/
def firstSupported? (l : ProtocolLoader) (ids : List ShapeId) :
    Option (ShapeId × ProtocolFamily) :=
  ids.findSome? fun id => (l.families.find? id).map fun f => (id, f)

/-- The protocol that is chosen for a service, with its family. -/
def select (l : ProtocolLoader) (model : Model) (service : ShapeId) :
    Except Error (ShapeId × ProtocolFamily) := do
  let declared ← model.serviceProtocols service
  match l.firstSupported? declared with
  | some chosen => return chosen
  | none => .error (.unsupportedProtocol service declared l.supported)

end ProtocolLoader

end Cratewright
