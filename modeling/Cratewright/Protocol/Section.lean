/-
The sections of a protocol's support code, and what is known of a protocol.
-/
import Cratewright.Crate.Known
import Cratewright.Source.Fragment

namespace Cratewright

/-- A place of the protocol module that can be customized. -/
inductive ProtocolSection where
  /-- The expression of the content type. -/
  | contentType
  /-- The body of the function that reads the metadata of an error out of `response`. -/
  | errorMetadata (response : String)
  /-- The type that a streamed payload is turned into. -/
  | payloadType (runtime : RuntimeConfig)
  /-- The expression that turns `payload` into a value of that type. -/
  | wrappedPayload (payload : String) (runtime : RuntimeConfig)
deriving DecidableEq

def ProtocolSection.name : ProtocolSection → String
  | contentType => "ContentType"
  | errorMetadata _ => "ParseErrorMetadata"
  | payloadType _ => "TypeOfSerializedStreamPayload"
  | wrappedPayload .. => "WrapStreamPayload"

/-- A contributor to the protocol module. -/
abbrev ProtocolCustomization := Customization ProtocolSection

/-- How a protocol writes errors. -/
inductive ErrorFormat where
  /-- As a JSON object. -/
  | json
  /-- As an XML element inside the root. -/
  | xmlWrapped
  /-- As the root of an XML document. -/
  | xmlUnwrapped
deriving DecidableEq, Inhabited

def ErrorFormat.name : ErrorFormat → String
  | json => "Json"
  | xmlWrapped => "XmlWrapped"
  | xmlUnwrapped => "XmlUnwrapped"

structure Protocol where
  /-- The trait of the services that speak it. -/
  id : ShapeId
  /-- The content type of bodies. -/
  contentType : String
  errorFormat : ErrorFormat
deriving DecidableEq

/-- What generated code can do with messages of a protocol. -/
structure Support where
  requestSerialization : Bool := true
  requestDeserialization : Bool := true
  responseSerialization : Bool := true
  responseDeserialization : Bool := true
  errorSerialization : Bool := true
  errorDeserialization : Bool := true
deriving DecidableEq

end Cratewright
