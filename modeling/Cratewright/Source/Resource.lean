/-
Source files that the generator carries with it.

Each is the whole text of one module. A module that is made of a file bears the file's
name, and needs the crates that the file's text refers to.
-/
import Cratewright.Crate.Known
import Cratewright.Source.Fragment

namespace Cratewright

/-- A source file that the generator carries. -/
inductive Resource where
  /-- The error code and type that a header carries for clients of an older protocol. -/
  | awsQueryCompatibleErrors
  /-- A byte stream as the body of a message. -/
  | hyperBodyWrapStream
  /-- Tokens that make a request idempotent, and what provides them. -/
  | idempotencyToken
  /-- The code and message of an error written as JSON. -/
  | jsonErrors
  /-- The code and message of an error that is the root of an XML document. -/
  | restXmlUnwrappedErrors
  /-- The code and message of an error inside the root of an XML document. -/
  | restXmlWrappedErrors
deriving DecidableEq

namespace Resource

/-- All files. -/
def all : List Resource :=
  [.awsQueryCompatibleErrors, .hyperBodyWrapStream, .idempotencyToken,
    .jsonErrors, .restXmlUnwrappedErrors, .restXmlWrappedErrors]

/-- The name of a file, which is that of the module made of it. -/
def name : Resource → String
  | awsQueryCompatibleErrors => "aws_query_compatible_errors"
  | hyperBodyWrapStream => "hyper_body_wrap_stream"
  | idempotencyToken => "idempotency_token"
  | jsonErrors => "json_errors"
  | restXmlUnwrappedErrors => "rest_xml_unwrapped_errors"
  | restXmlWrappedErrors => "rest_xml_wrapped_errors"

/-- The path that a file is asked for by. -/
def path (r : Resource) : String := "inlineable/" ++ r.name ++ ".rs"

/-- The file of a path. -/
def ofPath (path : String) : Except Error Resource :=
  match all.find? (·.path == path) with
  | some r => .ok r
  | none => .error (.missingResource path)

/-! ### Contents -/

/-- The error code and type that a header carries for clients of an older protocol. -/
def awsQueryCompatibleErrorsLines : List String := [
  "use http::header::ToStrError;",
  "use http::\x7bHeaderMap, HeaderValue\x7d;",
  "",
  "const X_AMZN_QUERY_ERROR: &str = \"x-amzn-query-error\";",
  "const QUERY_COMPATIBLE_ERRORCODE_DELIMITER: char = ';';",
  "",
  "fn aws_query_compatible_error_from_header(",
  "    headers: &HeaderMap<HeaderValue>,",
  ") -> Result<Option<&str>, ToStrError> \x7b",
  "    headers",
  "        .get(X_AMZN_QUERY_ERROR)",
  "        .map(|v| v.to_str())",
  "        .transpose()",
  "\x7d",
  "",
  "/// Obtains custom error code and error type from the given `headers`.",
  "///",
  "/// Looks up a value for the `X_AMZN_QUERY_ERROR` header and if found, the value should be in the",
  "/// form of `<error code>;<error type>`. The function then splits it into two parts and returns",
  "/// a (error code, error type) as a tuple.",
  "///",
  "/// Any execution path besides the above happy path will yield a `None`.",
  "pub fn parse_aws_query_compatible_error(headers: &HeaderMap<HeaderValue>) -> Option<(&str, &str)> \x7b",
  "    let header_value = match aws_query_compatible_error_from_header(headers) \x7b",
  "        Ok(error) => error?,",
  "        _ => return None,",
  "    \x7d;",
  "",
  "    header_value",
  "        .find(QUERY_COMPATIBLE_ERRORCODE_DELIMITER)",
  "        .map(|idx| \x7b",
  "            let error_code = &header_value[..idx];",
  "            let error_type = &header_value[idx + 1..];",
  "            (error_code, error_type)",
  "        \x7d)",
  "\x7d"]

/-- A byte stream as the body of a message. -/
def hyperBodyWrapStreamLines : List String := [
  "use std::pin::Pin;",
  "use std::task::\x7bContext, Poll\x7d;",
  "",
  "use aws_smithy_types::byte_stream::ByteStream;",
  "use bytes::Bytes;",
  "use futures_core::Stream;",
  "",
  "/// Wraps a [`ByteStream`] so it can be used as a streaming `hyper` body.",
  "pub struct HyperBodyWrapByteStream(ByteStream);",
  "",
  "impl HyperBodyWrapByteStream \x7b",
  "    pub fn new(stream: ByteStream) -> Self \x7b",
  "        Self(stream)",
  "    \x7d",
  "",
  "    pub fn into_inner(self) -> ByteStream \x7b",
  "        self.0",
  "    \x7d",
  "\x7d",
  "",
  "impl Stream for HyperBodyWrapByteStream \x7b",
  "    type Item = Result<Bytes, aws_smithy_types::byte_stream::error::Error>;",
  "",
  "    fn poll_next(mut self: Pin<&mut Self>, cx: &mut Context<'_>) -> Poll<Option<Self::Item>> \x7b",
  "        Pin::new(&mut self.0).poll_next(cx)",
  "    \x7d",
  "\x7d",
  "",
  "impl From<HyperBodyWrapByteStream> for hyper::Body \x7b",
  "    fn from(stream: HyperBodyWrapByteStream) -> Self \x7b",
  "        hyper::Body::wrap_stream(stream)",
  "    \x7d",
  "\x7d"]

/-- Tokens that make a request idempotent, and what provides them. -/
def idempotencyTokenLines : List String := [
  "use std::sync::Mutex;",
  "",
  "use aws_smithy_types::config_bag::\x7bStorable, StoreReplace\x7d;",
  "",
  "pub(crate) fn uuid_v4(input: u128) -> String \x7b",
  "    let mut out = String::with_capacity(36);",
  "    // u4-aligned index into [input]",
  "    let mut rnd_idx: u8 = 0;",
  "    const HEX_CHARS: &[u8; 16] = b\"0123456789abcdef\";",
  "",
  "    for str_idx in 0..36 \x7b",
  "        if str_idx == 8 || str_idx == 13 || str_idx == 18 || str_idx == 23 \x7b",
  "            out.push('-');",
  "        // UUID version character",
  "        \x7d else if str_idx == 14 \x7b",
  "            out.push('4');",
  "        \x7d else \x7b",
  "            let mut dat: u8 = ((input >> (rnd_idx * 4)) & 0x0F) as u8;",
  "            // UUID variant bits",
  "            if str_idx == 19 \x7b",
  "                dat |= 0b00001000;",
  "            \x7d",
  "            rnd_idx += 1;",
  "            out.push(HEX_CHARS[dat as usize] as char);",
  "        \x7d",
  "    \x7d",
  "    out",
  "\x7d",
  "",
  "/// IdempotencyTokenProvider generates idempotency tokens for idempotent API requests",
  "///",
  "/// Generally, customers will not need to interact with this at all. A sensible default will be",
  "/// provided automatically during config construction. However, if you need deterministic behavior",
  "/// for testing, two options are available:",
  "/// 1. Utilize the From<&'static str>` implementation to hard code an idempotency token",
  "/// 2. Seed the token provider with [`IdempotencyTokenProvider::with_seed`](IdempotencyTokenProvider::with_seed)",
  "#[derive(Debug)]",
  "pub struct IdempotencyTokenProvider \x7b",
  "    inner: Inner,",
  "\x7d",
  "",
  "#[derive(Debug)]",
  "enum Inner \x7b",
  "    Static(&'static str),",
  "    Random(Mutex<fastrand::Rng>),",
  "\x7d",
  "",
  "pub fn default_provider() -> IdempotencyTokenProvider \x7b",
  "    IdempotencyTokenProvider::random()",
  "\x7d",
  "",
  "impl From<&'static str> for IdempotencyTokenProvider \x7b",
  "    fn from(token: &'static str) -> Self \x7b",
  "        Self::fixed(token)",
  "    \x7d",
  "\x7d",
  "",
  "impl Storable for IdempotencyTokenProvider \x7b",
  "    type Storer = StoreReplace<IdempotencyTokenProvider>;",
  "\x7d",
  "",
  "impl IdempotencyTokenProvider \x7b",
  "    pub fn make_idempotency_token(&self) -> String \x7b",
  "        match &self.inner \x7b",
  "            Inner::Static(token) => token.to_string(),",
  "            Inner::Random(rng) => \x7b",
  "                let input: u128 = rng.lock().unwrap().u128(..);",
  "                uuid_v4(input)",
  "            \x7d",
  "        \x7d",
  "    \x7d",
  "",
  "    pub fn with_seed(seed: u64) -> Self \x7b",
  "        Self \x7b",
  "            inner: Inner::Random(Mutex::new(fastrand::Rng::with_seed(seed))),",
  "        \x7d",
  "    \x7d",
  "",
  "    pub fn random() -> Self \x7b",
  "        Self \x7b",
  "            inner: Inner::Random(Mutex::new(fastrand::Rng::new())),",
  "        \x7d",
  "    \x7d",
  "",
  "    pub fn fixed(token: &'static str) -> Self \x7b",
  "        Self \x7b",
  "            inner: Inner::Static(token),",
  "        \x7d",
  "    \x7d",
  "\x7d",
  "",
  "impl Clone for IdempotencyTokenProvider \x7b",
  "    fn clone(&self) -> Self \x7b",
  "        match &self.inner \x7b",
  "            Inner::Static(token) => IdempotencyTokenProvider::fixed(token),",
  "            Inner::Random(_) => IdempotencyTokenProvider::random(),",
  "        \x7d",
  "    \x7d",
  "\x7d"]

/-- The code and message of an error written as JSON. -/
def jsonErrorsLines : List String := [
  "use aws_smithy_json::deserialize::token::skip_value;",
  "use aws_smithy_json::deserialize::\x7bDeserializeError, Token, json_token_iter\x7d;",
  "use aws_smithy_types::error::metadata::\x7bBuilder as ErrorMetadataBuilder, ErrorMetadata\x7d;",
  "use bytes::Bytes;",
  "use http::HeaderMap;",
  "use std::borrow::Cow;",
  "",
  "// currently only used by AwsJson",
  "#[allow(unused)]",
  "pub fn is_error<B>(response: &http::Response<B>) -> bool \x7b",
  "    !response.status().is_success()",
  "\x7d",
  "",
  "fn sanitize_error_code(error_code: &str) -> &str \x7b",
  "    // Trim a trailing URL from the error code, which is done by removing the longest suffix",
  "    // beginning with a `:`",
  "    let error_code = match error_code.find(':') \x7b",
  "        Some(idx) => &error_code[..idx],",
  "        None => error_code,",
  "    \x7d;",
  "",
  "    // Trim a prefixing namespace from the error code, beginning with a `#`",
  "    match error_code.find('#') \x7b",
  "        Some(idx) => &error_code[idx + 1..],",
  "        None => error_code,",
  "    \x7d",
  "\x7d",
  "",
  "struct ErrorBody<'a> \x7b",
  "    code: Option<Cow<'a, str>>,",
  "    message: Option<Cow<'a, str>>,",
  "\x7d",
  "",
  "fn parse_error_body(bytes: &[u8]) -> Result<ErrorBody<'_>, DeserializeError> \x7b",
  "    let mut tokens = json_token_iter(bytes).peekable();",
  "    let (mut typ, mut code, mut message) = (None, None, None);",
  "    if let Some(Token::StartObject \x7b .. \x7d) = tokens.next().transpose()? \x7b",
  "        loop \x7b",
  "            match tokens.next().transpose()? \x7b",
  "                Some(Token::EndObject \x7b .. \x7d) => break,",
  "                Some(Token::ObjectKey \x7b key, .. \x7d) => \x7b",
  "                    if let Some(Ok(Token::ValueString \x7b value, .. \x7d)) = tokens.peek() \x7b",
  "                        match key.as_escaped_str() \x7b",
  "                            \"code\" => code = Some(value.to_unescaped()?),",
  "                            \"__type\" => typ = Some(value.to_unescaped()?),",
  "                            \"message\" | \"Message\" | \"errorMessage\" => \x7b",
  "                                message = Some(value.to_unescaped()?)",
  "                            \x7d",
  "                            _ => \x7b\x7d",
  "                        \x7d",
  "                    \x7d",
  "                    skip_value(&mut tokens)?;",
  "                \x7d",
  "                _ => \x7b",
  "                    return Err(DeserializeError::custom(",
  "                        \"expected object key or end object\",",
  "                    ))",
  "                \x7d",
  "            \x7d",
  "        \x7d",
  "        if tokens.next().is_some() \x7b",
  "            return Err(DeserializeError::custom(",
  "                \"found more JSON tokens after completing parsing\",",
  "            ));",
  "        \x7d",
  "    \x7d",
  "    Ok(ErrorBody \x7b",
  "        code: code.or(typ),",
  "        message,",
  "    \x7d)",
  "\x7d",
  "",
  "pub fn parse_error_metadata(",
  "    payload: &Bytes,",
  "    headers: &HeaderMap,",
  ") -> Result<ErrorMetadataBuilder, DeserializeError> \x7b",
  "    let ErrorBody \x7b code, message \x7d = parse_error_body(payload.as_ref())?;",
  "",
  "    let mut err_builder = ErrorMetadata::builder();",
  "    if let Some(code) = headers",
  "        .get(\"x-amzn-errortype\")",
  "        .and_then(|v| v.to_str().ok())",
  "        .or(code.as_deref())",
  "        .map(sanitize_error_code)",
  "    \x7b",
  "        err_builder = err_builder.code(code);",
  "    \x7d",
  "    if let Some(message) = message \x7b",
  "        err_builder = err_builder.message(message);",
  "    \x7d",
  "    Ok(err_builder)",
  "\x7d"]

/-- The code and message of an error that is the root of an XML document. -/
def restXmlUnwrappedErrorsLines : List String := [
  "//! Error processing logic for restXml services that have `noErrorWrapping` set.",
  "",
  "use aws_smithy_types::error::metadata::\x7bBuilder as ErrorMetadataBuilder, ErrorMetadata\x7d;",
  "use aws_smithy_xml::decode::\x7bDocument, ScopedDecoder, XmlDecodeError, try_data\x7d;",
  "",
  "#[allow(unused)]",
  "pub fn body_is_error(body: &[u8]) -> Result<bool, XmlDecodeError> \x7b",
  "    let mut doc = Document::try_from(body)?;",
  "    let scoped = doc.root_element()?;",
  "    Ok(scoped.start_el().matches(\"Error\"))",
  "\x7d",
  "",
  "pub fn error_scope<'a, 'b>(",
  "    doc: &'a mut Document<'b>,",
  ") -> Result<ScopedDecoder<'b, 'a>, XmlDecodeError> \x7b",
  "    let scoped = doc.root_element()?;",
  "    if !scoped.start_el().matches(\"Error\") \x7b",
  "        return Err(XmlDecodeError::custom(\"expected error as root\"));",
  "    \x7d",
  "    Ok(scoped)",
  "\x7d",
  "",
  "pub fn parse_error_metadata(body: &[u8]) -> Result<ErrorMetadataBuilder, XmlDecodeError> \x7b",
  "    let mut doc = Document::try_from(body)?;",
  "    let mut root = doc.root_element()?;",
  "    let mut builder = ErrorMetadata::builder();",
  "    while let Some(mut tag) = root.next_tag() \x7b",
  "        match tag.start_el().local() \x7b",
  "            \"Code\" => \x7b",
  "                builder = builder.code(try_data(&mut tag)?);",
  "            \x7d",
  "            \"Message\" => \x7b",
  "                builder = builder.message(try_data(&mut tag)?);",
  "            \x7d",
  "            _ => \x7b\x7d",
  "        \x7d",
  "    \x7d",
  "    Ok(builder)",
  "\x7d"]

/-- The code and message of an error inside the root of an XML document. -/
def restXmlWrappedErrorsLines : List String := [
  "use aws_smithy_types::error::metadata::\x7bBuilder as ErrorMetadataBuilder, ErrorMetadata\x7d;",
  "use aws_smithy_xml::decode::\x7bDocument, ScopedDecoder, XmlDecodeError, try_data\x7d;",
  "",
  "#[allow(unused)]",
  "pub fn body_is_error(body: &[u8]) -> Result<bool, XmlDecodeError> \x7b",
  "    let mut doc = Document::try_from(body)?;",
  "    let scoped = doc.root_element()?;",
  "    Ok(scoped.start_el().matches(\"ErrorResponse\"))",
  "\x7d",
  "",
  "pub fn parse_error_metadata(body: &[u8]) -> Result<ErrorMetadataBuilder, XmlDecodeError> \x7b",
  "    let mut doc = Document::try_from(body)?;",
  "    let mut root = doc.root_element()?;",
  "    let mut err_builder = ErrorMetadata::builder();",
  "    while let Some(mut tag) = root.next_tag() \x7b",
  "        if tag.start_el().local() == \"Error\" \x7b",
  "            while let Some(mut error_field) = tag.next_tag() \x7b",
  "                match error_field.start_el().local() \x7b",
  "                    \"Code\" => \x7b",
  "                        err_builder = err_builder.code(try_data(&mut error_field)?);",
  "                    \x7d",
  "                    \"Message\" => \x7b",
  "                        err_builder = err_builder.message(try_data(&mut error_field)?);",
  "                    \x7d",
  "                    _ => \x7b\x7d",
  "                \x7d",
  "            \x7d",
  "        \x7d",
  "    \x7d",
  "    Ok(err_builder)",
  "\x7d",
  "",
  "#[allow(unused)]",
  "pub fn error_scope<'a, 'b>(",
  "    doc: &'a mut Document<'b>,",
  ") -> Result<ScopedDecoder<'b, 'a>, XmlDecodeError> \x7b",
  "    let root = doc",
  "        .next_start_element()",
  "        .ok_or_else(|| XmlDecodeError::custom(\"no root found searching for an Error\"))?;",
  "    if !root.matches(\"ErrorResponse\") \x7b",
  "        return Err(XmlDecodeError::custom(\"expected ErrorResponse as root\"));",
  "    \x7d",
  "",
  "    while let Some(el) = doc.next_start_element() \x7b",
  "        if el.matches(\"Error\") && el.depth() == 1 \x7b",
  "            return Ok(doc.scoped_to(el));",
  "        \x7d",
  "    \x7d",
  "    Err(XmlDecodeError::custom(\"no Error found inside of ErrorResponse\"))",
  "\x7d"]

/-- The lines of a file. -/
def lines : Resource → List String
  | awsQueryCompatibleErrors => awsQueryCompatibleErrorsLines
  | hyperBodyWrapStream => hyperBodyWrapStreamLines
  | idempotencyToken => idempotencyTokenLines
  | jsonErrors => jsonErrorsLines
  | restXmlUnwrappedErrors => restXmlUnwrappedErrorsLines
  | restXmlWrappedErrors => restXmlWrappedErrorsLines

/-- The text of a file. -/
def text (r : Resource) : String := Text.ofLines r.lines

/-! ### Modules made of files -/

/-- The module that a file is meant for. -/
def home (r : Resource) : SourceModule where
  name := r.name
  visibility :=
    match r with
    | idempotencyToken => .everyone
    | hyperBodyWrapStream => .withinCrate
    | _ => .hidden

/-- The crates that a file's text refers to. -/
def crates (r : Resource) (c : RuntimeConfig) : List CrateDependency :=
  match r with
  | awsQueryCompatibleErrors => [c.smithyJson, Known.http]
  | hyperBodyWrapStream =>
    [Known.hyperWithStream, Known.futuresCore, Known.bytes, c.smithyTypes]
  | idempotencyToken => [Known.fastrand, c.smithyTypes]
  | jsonErrors => [c.smithyJson, c.smithyTypes, Known.bytes, Known.http]
  | restXmlUnwrappedErrors | restXmlWrappedErrors => [c.smithyXml, c.smithyTypes]

/-- The fragment that makes up a module with the text of a file. -/
def fragmentIn (r : Resource) (home : SourceModule) (extra : List (Requirement Fragment)) :
    Fragment where
  name := home.name
  home
  symbol := home.path
  extra
  body := [.raw r.text]

/-- The fragment of a file in its own module. -/
def fragment (r : Resource) (c : RuntimeConfig) : Fragment :=
  r.fragmentIn r.home ((r.crates c).map .crate)

/-- Looks up the file that a module is named after. -/
def load (r : Resource) (c : RuntimeConfig) : Except Error Fragment := do
  let file ← ofPath ("inlineable/" ++ r.home.name ++ ".rs")
  return file.fragmentIn r.home ((r.crates c).map .crate)

theorem ofPath_path (r : Resource) : ofPath r.path = .ok r := by
  cases r <;> rfl

/-- The generator carries every file that a module is named after. -/
theorem load_eq (r : Resource) (c : RuntimeConfig) : r.load c = .ok (r.fragment c) := by
  have found : ofPath ("inlineable/" ++ r.home.name ++ ".rs") = .ok r := r.ofPath_path
  rw [load, found]
  rfl

end Resource

end Cratewright
