/-
Families of protocols.

A family knows its protocol and how to make the generator for a service that speaks it.
-/
import Cratewright.Protocol.Generator
import Cratewright.Settings

namespace Cratewright

structure ProtocolFamily where
  protocol : Protocol
  support : Support := {}
  /-- The contributors that come after the family's own. -/
  extras : List ProtocolCustomization := []
  /-- How a service writes errors. -/
  errorFormat : Context → ErrorFormat := fun _ => protocol.errorFormat

/-- The identifier of a protocol. -/
def protocolId (name : String) : ShapeId := ⟨protocolSpace, name, none⟩

/-- A version of the protocols whose messages are all JSON. -/
inductive AwsJsonVersion where
  | json10
  | json11
deriving DecidableEq

namespace AwsJsonVersion

/-- The name of the protocol's trait. -/
def traitName : AwsJsonVersion → String
  | json10 => "awsJson1_0"
  | json11 => "awsJson1_1"

/-- The content type of bodies. -/
def contentType : AwsJsonVersion → String
  | json10 => "application/x-amz-json-1.0"
  | json11 => "application/x-amz-json-1.1"

end AwsJsonVersion

namespace ProtocolFamily

/-- JSON over the methods and paths of HTTP. -/
def restJson (extras : List ProtocolCustomization) : ProtocolFamily where
  protocol := ⟨protocolId "restJson1", "application/json", .json⟩
  extras

/-- Whether the trait of a service says that its errors are the roots of their documents. -/
def isUnwrapped (ctx : Context) : Bool :=
  ((do
    let value ← ctx.model.traitValue? ctx.service (protocolId "restXml")
    let setting ← value.field? "noErrorWrapping"
    setting.asFlag?) : Option Bool).getD false

/-- XML over the methods and paths of HTTP. -/
def restXml (extras : List ProtocolCustomization) : ProtocolFamily where
  protocol := ⟨protocolId "restXml", "application/xml", .xmlWrapped⟩
  support := { errorSerialization := false }
  extras
  errorFormat := fun ctx => if isUnwrapped ctx then .xmlUnwrapped else .xmlWrapped

/-- JSON bodies only. -/
def awsJson (version : AwsJsonVersion) (extras : List ProtocolCustomization) :
    ProtocolFamily where
  protocol := ⟨protocolId version.traitName, version.contentType, .json⟩
  extras

/-- How the errors of a service are read. -/
def errorMetadata (f : ProtocolFamily) (ctx : Context) : ErrorMetadata where
  format := f.errorFormat ctx
  queryCompatible :=
    f.errorFormat ctx == .json && ctx.model.hasTrait ctx.service queryCompatibleTrait
  runtime := ctx.runtime

/-- The generator for a service. -/
def generator (f : ProtocolFamily) (ctx : Context) : ProtocolGenerator where
  protocol := { f.protocol with errorFormat := f.errorFormat ctx }
  support := f.support
  runtime := ctx.runtime
  customizations :=
    contentTypeCustomization f.protocol.contentType :: (f.errorMetadata ctx).customization ::
      f.extras

/-- The generator for a service, if the files are there that its errors are read with. -/
def build (f : ProtocolFamily) (ctx : Context) : Except Error ProtocolGenerator := do
  let _ ← (f.errorMetadata ctx).load
  return f.generator ctx

end ProtocolFamily

end Cratewright
