/-
The generator of a service's protocol module.
-/
import Cratewright.Protocol.Customizations

namespace Cratewright

/-- A generator of a protocol module. -/
structure ProtocolGenerator where
  protocol : Protocol
  support : Support
  runtime : RuntimeConfig
  customizations : List ProtocolCustomization

namespace ProtocolGenerator

variable (g : ProtocolGenerator)

/-- What the customizations say at a section, or what is said if none of them does. -/
def composedOr (s : ProtocolSection) (fallback : List (Command Fragment)) :
    Snippet Fragment :=
  (Customization.compose g.customizations s).or (some fallback)

def constants : List (Command Fragment) := [
  .template
    (Text.ofLines [
      "/// Protocol trait the service is generated for.",
      "pub(crate) const PROTOCOL: &str = \"#{protocol}\";",
      "",
      "/// Content type of serialized bodies.",
      "pub(crate) const CONTENT_TYPE: &str = #{content_type};"])
    [("protocol", .text g.protocol.id.text),
      ("content_type", .code
        (g.composedOr .contentType (contentTypeLiteral g.protocol.contentType)))]]

/-- The module that the metadata of errors comes from. -/
def metadataItem : ItemPath Fragment :=
  (ItemPath.ofCrate g.runtime.smithyTypes).resolve "error::metadata"

/-- The function that reads the metadata of an error. -/
def errorParser : List (Command Fragment) := [
  .template
    (Text.ofLines [
      "/// Parses error metadata out of an error response.",
      "pub(crate) fn parse_error_metadata(",
      "    response: &#{http}::Response<#{Bytes}>,",
      ") -> Result<#{ErrorMetadataBuilder}, Box<dyn ::std::error::Error + Send + Sync>> \x7b",
      "    #{parse}",
      "\x7d"])
    [("http", .item (.ofCrate Known.http)),
      ("Bytes", .item ((ItemPath.ofCrate Known.bytes).resolve "Bytes")),
      ("ErrorMetadataBuilder", .item (g.metadataItem.resolve "Builder")),
      ("parse", .code (g.composedOr (.errorMetadata "response") [
        .template "Ok(#{ErrorMetadata}::builder())"
          [("ErrorMetadata", .item (g.metadataItem.resolve "ErrorMetadata"))]]))]]

/-- The type of byte streams. -/
def byteStream : ItemPath Fragment :=
  (ItemPath.ofCrate g.runtime.smithyTypes).resolve "byte_stream::ByteStream"

/-- The items that turn a streamed payload into the body of a message. -/
def streamPayload : List (Command Fragment) := [
  .template
    (Text.ofLines [
      "/// Body type streaming payloads are serialized into.",
      "pub(crate) type SerializedStreamPayload = #{stream_type};",
      "",
      "/// Wraps a streaming payload for use as an HTTP body.",
      "pub(crate) fn wrap_stream_payload(payload: #{ByteStream}) -> " ++
        "SerializedStreamPayload \x7b",
      "    #{wrap}",
      "\x7d"])
    [("stream_type", .code (g.composedOr (.payloadType g.runtime) [
        .template "#{ByteStream}" [("ByteStream", .item g.byteStream)]])),
      ("ByteStream", .item g.byteStream),
      ("wrap", .code (g.composedOr (.wrappedPayload "payload" g.runtime) [
        .code "payload"]))]]

/-- The script of the protocol module. -/
def script : List (Command Fragment) :=
  g.constants ++
  (if g.support.errorDeserialization then .blankLine :: g.errorParser else []) ++
  (if g.support.requestSerialization || g.support.responseSerialization then
    .blankLine :: g.streamPayload
  else [])

end ProtocolGenerator

end Cratewright
