/-
What the protocols themselves say in a protocol module: the content type, how errors are
read, and how streamed payloads are sent.
-/
import Cratewright.Protocol.Section
import Cratewright.Source.Resource
import Cratewright.Text.Quoted

namespace Cratewright

/-- The expression of a content type. -/
def contentTypeLiteral (contentType : String) : List (Command Fragment) :=
  [.template "#{literal}" [("literal", .text (Text.quoted contentType))]]

/-- A contributor that gives the content type. -/
def contentTypeCustomization (contentType : String) : ProtocolCustomization where
  name := "content_type"
  contribute
    | .contentType => some (contentTypeLiteral contentType)
    | _ => none

/-! ### Errors -/

/-- The file with the functions that read errors of a format. -/
def ErrorFormat.resource : ErrorFormat → Resource
  | json => .jsonErrors
  | xmlWrapped => .restXmlWrappedErrors
  | xmlUnwrapped => .restXmlUnwrappedErrors

/-- How the metadata of errors is read. -/
structure ErrorMetadata where
  format : ErrorFormat
  /-- Whether a header can carry the code that clients of an older protocol know. -/
  queryCompatible : Bool := false
  runtime : RuntimeConfig

namespace ErrorMetadata

/-- How the metadata is read, if the files are there that read it. -/
def load (m : ErrorMetadata) : Except Error ErrorMetadata := do
  let _ ← m.format.resource.load m.runtime
  if m.queryCompatible then
    let _ ← Resource.awsQueryCompatibleErrors.load m.runtime
    return m
  else return m

/-- The module with the functions that read errors. -/
def parserItem (m : ErrorMetadata) : ItemPath Fragment :=
  (m.format.resource.fragment m.runtime).item

/-- The module with the function that reads the header. -/
def headerItem (m : ErrorMetadata) : ItemPath Fragment :=
  (Resource.awsQueryCompatibleErrors.fragment m.runtime).item

/-- The statements that read the metadata out of a response. -/
def body (m : ErrorMetadata) (response : String) : List (Command Fragment) :=
  let bindings := [("parser", .item m.parserItem), ("response", .text response)]
  match m.format, m.queryCompatible with
  | .json, true => [
    .template
      (Text.ofLines [
        "let mut builder = " ++
          "#{parser}::parse_error_metadata(#{response}.body(), #{response}.headers())?;",
        "if let Some((error_code, error_type)) =",
        "    #{headers}::parse_aws_query_compatible_error(#{response}.headers())",
        "\x7b",
        "    builder = builder.code(error_code);",
        "    builder = builder.custom(\"type\", error_type);",
        "\x7d",
        "Ok(builder)"])
      (bindings ++ [("headers", .item m.headerItem)])]
  | .json, false => [
    .template
      "Ok(#{parser}::parse_error_metadata(#{response}.body(), #{response}.headers())?)"
      bindings]
  | _, _ => [
    .template "Ok(#{parser}::parse_error_metadata(#{response}.body().as_ref())?)" bindings]

/-- A contributor that reads the metadata of errors. -/
def customization (m : ErrorMetadata) : ProtocolCustomization where
  name := "error_metadata"
  contribute
    | .errorMetadata response => some (m.body response)
    | _ => none

end ErrorMetadata

/-! ### Streamed payloads -/

/-- The type that makes a byte stream the body of a message. -/
def streamBody (source : Fragment) : ItemPath Fragment :=
  source.item.resolve "HyperBodyWrapByteStream"

/-- What is said with the type of streaming bodies, if the file that it comes from is there. -/
def withStreamBody (runtime : RuntimeConfig)
    (say : ItemPath Fragment → List (Command Fragment)) : List (Command Fragment) :=
  match Resource.hyperBodyWrapStream.load runtime with
  | .ok source => say (streamBody source)
  | .error e => [.fail e]

/-- A contributor that sends streamed payloads as streaming bodies. -/
def streamPayloadCustomization : ProtocolCustomization where
  name := "stream_payload_serializer"
  contribute
    | .payloadType runtime => some <| withStreamBody runtime fun body => [
      .template "#{HyperBodyWrapByteStream}" [("HyperBodyWrapByteStream", .item body)]]
    | .wrappedPayload payload runtime => some <| withStreamBody runtime fun body => [
      .template "#{HyperBodyWrapByteStream}::new(#{payload})"
        [("HyperBodyWrapByteStream", .item body), ("payload", .text payload)]]
    | _ => none

end Cratewright
