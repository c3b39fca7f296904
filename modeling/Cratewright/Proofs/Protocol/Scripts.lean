/-
What the protocol module of a service asks for.

Every template of a protocol module has all its holes bound, for every family of protocols
and both targets. Of fragments it asks for the file that errors are read with, for the file
that reads the header of an older protocol, and on servers for the type of streaming bodies:

* `ProtocolGenerator.asks_script` — what a generator asks for, section by section;
* `ProtocolLoader.isStandard_of_select` — what is known of a family that was selected;
* `ProtocolFamily.asks_generator` — what the generator of such a family asks for.
-/
import Cratewright.Proofs.SortedMap
import Cratewright.Proofs.Source.Scripts
import Cratewright.Protocol.Loader

namespace Cratewright

open Writer

/-! ### Contributors -/

theorem asks_contentTypeLiteral (contentType : String) :
    Asks (contentTypeLiteral contentType) [] :=
  .plain ["literal"] (by simp [supplies_text])
    (Template.holes_of_spelled .literal (by decide)) (by simp)

theorem asks_contentTypeCustomization (contentType : String) (s : ProtocolSection) :
    Asks (((contentTypeCustomization contentType).contribute s).getD []) [] := by
  cases s with
  | contentType => exact asks_contentTypeLiteral contentType
  | _ => exact asks_nil

namespace ErrorMetadata

variable (m : ErrorMetadata)

/-- The fragments that reading the metadata refers to. -/
def asked : List Fragment :=
  m.format.resource.fragment m.runtime ::
    if m.format = .json ∧ m.queryCompatible then
      [Resource.awsQueryCompatibleErrors.fragment m.runtime]
    else []

theorem supplies_parserItem :
    Supplies (.item m.parserItem) [m.format.resource.fragment m.runtime] :=
  supplies_item m.parserItem

theorem supplies_headerItem :
    Supplies (.item m.headerItem) [Resource.awsQueryCompatibleErrors.fragment m.runtime] :=
  supplies_item m.headerItem

theorem asks_body (response : String) : Asks (m.body response) m.asked := by
  have bound := m.supplies_parserItem.cons "parser" <| (supplies_text response).bound "response"
  have withHeader := m.supplies_parserItem.cons "parser" <|
    (supplies_text response).cons "response" <| m.supplies_headerItem.bound "headers"
  have twice {text : String} (holes : Template.holes text = ["parser", "response", "response"]) :
      Asks [.template text [("parser", .item m.parserItem), ("response", .text response)]]
        [m.format.resource.fragment m.runtime] :=
    .template _ bound holes (by simp) (by simp [List.lookup_cons])
  have once {text : String} (holes : Template.holes text = ["parser", "response"]) :
      Asks [.template text [("parser", .item m.parserItem), ("response", .text response)]]
        [m.format.resource.fragment m.runtime] :=
    .template _ bound holes (by simp) (by simp [List.lookup_cons])
  cases format : m.format <;> cases compatible : m.queryCompatible <;>
    simp only [body, asked, format, compatible, reduceCtorEq, Bool.false_eq_true, and_self,
      and_false, false_and, ↓reduceIte] <;> rw [← format]
  case json.true =>
    exact .template ["parser", "response", "response", "headers", "response"] withHeader
      (Template.holes_ofLines (by repeat constructor) (by decide)) (by simp)
      (by simp [List.lookup_cons, format])
  case json.false => exact twice (Template.holes_of_spelled .literal (by decide))
  all_goals exact once (Template.holes_of_spelled .literal (by decide))

/-- The fragments that the metadata's contributor asks for at a section. -/
def askedAt : ProtocolSection → List Fragment
  | .errorMetadata _ => m.asked
  | _ => []

theorem asks_customization (s : ProtocolSection) :
    Asks ((m.customization.contribute s).getD []) (m.askedAt s) := by
  cases s with
  | errorMetadata response => exact m.asks_body response
  | _ => exact asks_nil

end ErrorMetadata

/-- The fragments that the type of streaming bodies comes from. -/
def streamFragments (target : Target) (runtime : RuntimeConfig) : List Fragment :=
  match target with
  | .client => []
  | .server => [Resource.hyperBodyWrapStream.fragment runtime]

/-- The fragments that the further contributors of a target ask for at a section. -/
def streamFragmentsAt (target : Target) : ProtocolSection → List Fragment
  | .payloadType runtime | .wrappedPayload _ runtime => streamFragments target runtime
  | _ => []

theorem asks_withStreamBody {runtime : RuntimeConfig}
    {say : ItemPath Fragment → List (Command Fragment)} {fs : List Fragment}
    (h : Asks (say (streamBody (Resource.hyperBodyWrapStream.fragment runtime))) fs) :
    Asks (withStreamBody runtime say) fs := by
  rw [withStreamBody, Resource.load_eq]
  exact h

theorem asks_streamPayloadCustomization (s : ProtocolSection) :
    Asks ((streamPayloadCustomization.contribute s).getD []) (streamFragmentsAt .server s) := by
  have body (runtime : RuntimeConfig) :
      Supplies (.item (streamBody (Resource.hyperBodyWrapStream.fragment runtime)))
        (streamFragments .server runtime) :=
    supplies_item _
  cases s with
  | payloadType runtime =>
    simp only [streamPayloadCustomization, Option.getD_some, streamFragmentsAt]
    apply asks_withStreamBody
    exact .template ["HyperBodyWrapByteStream"] ((body runtime).bound "HyperBodyWrapByteStream")
      (Template.holes_of_spelled .literal (by decide)) (by simp)
      (by simp [List.lookup_cons])
  | wrappedPayload payload runtime =>
    have bound := (body runtime).cons "HyperBodyWrapByteStream" <|
      (supplies_text payload).bound "payload"
    simp only [streamPayloadCustomization, Option.getD_some, streamFragmentsAt]
    apply asks_withStreamBody
    exact .template ["HyperBodyWrapByteStream", "payload"] bound
      (Template.holes_of_spelled .literal (by decide)) (by simp)
      (by simp [List.lookup_cons])
  | _ => exact asks_nil

theorem asks_targetExtras (target : Target) (s : ProtocolSection) :
    Asks ((ProtocolLoader.targetExtras target).flatMap fun c => (c.contribute s).getD [])
      (streamFragmentsAt target s) := by
  cases target with
  | client => cases s <;> exact asks_nil
  | server =>
    rw [ProtocolLoader.targetExtras, List.flatMap_singleton]
    exact asks_streamPayloadCustomization s

/-! ### Generators -/

namespace ProtocolGenerator

variable {g : ProtocolGenerator} {asked : ProtocolSection → List Fragment}

/-- A fallback that asks for nothing does not change what is asked for. -/
theorem asks_composedOr {s : ProtocolSection} {fallback : List (Command Fragment)}
    {fs : List Fragment} (h : Asks ((Customization.compose g.customizations s).getD []) fs)
    (hf : Asks fallback []) : Asks ((g.composedOr s fallback).getD []) fs := by
  rw [composedOr]
  cases hs : Customization.compose g.customizations s with
  | some script =>
    rw [hs] at h
    exact h
  | none =>
    rw [hs] at h
    have nothing : [] = fs := h.fragments {}
    rw [← nothing]
    exact hf

theorem supplies_metadataItem (item : String) :
    Supplies (.item (g.metadataItem.resolve item)) [] :=
  supplies_item _

variable (h : ∀ s, Asks ((Customization.compose g.customizations s).getD []) (asked s))

include h

theorem asks_constants : Asks g.constants (asked .contentType) := by
  have contentType := (asks_composedOr (h .contentType)
    (asks_contentTypeLiteral g.protocol.contentType)).supplies
  have bound := (supplies_text g.protocol.id.text).cons "protocol" <|
    contentType.bound "content_type"
  exact .template ["protocol", "content_type"] bound
    (Template.holes_ofLines (by repeat constructor) (by decide)) (by simp)
    (by simp [List.lookup_cons])

theorem asks_errorParser : Asks g.errorParser (asked (.errorMetadata "response")) := by
  have fallback : Asks [.template "Ok(#{ErrorMetadata}::builder())"
      [("ErrorMetadata", .item (g.metadataItem.resolve "ErrorMetadata"))]] [] :=
    .plain ["ErrorMetadata"] (by simp [g.supplies_metadataItem])
      (Template.holes_of_spelled .literal (by decide)) (by simp)
  have bound :=
    (supplies_item (.ofCrate Known.http)).cons "http" <|
      (supplies_item ((ItemPath.ofCrate Known.bytes).resolve "Bytes")).cons "Bytes" <|
      (g.supplies_metadataItem "Builder").cons "ErrorMetadataBuilder" <|
      (asks_composedOr (h (.errorMetadata "response")) fallback).supplies.bound "parse"
  exact .template ["http", "Bytes", "ErrorMetadataBuilder", "parse"] bound
    (Template.holes_ofLines (by repeat constructor) (by decide)) (by simp)
    (by simp [List.lookup_cons])

theorem asks_streamPayload : Asks g.streamPayload
    (asked (.payloadType g.runtime) ++ asked (.wrappedPayload "payload" g.runtime)) := by
  have stream : Supplies (.item g.byteStream) [] := supplies_item g.byteStream
  have fallback : Asks [.template "#{ByteStream}" [("ByteStream", .item g.byteStream)]] [] :=
    .plain ["ByteStream"] (by simp [stream])
      (Template.holes_of_spelled .literal (by decide)) (by simp)
  have type := asks_composedOr (h (.payloadType g.runtime)) fallback
  have wrap := asks_composedOr (h (.wrappedPayload "payload" g.runtime)) (asks_code "payload")
  have bound := type.supplies.cons "stream_type" <| stream.cons "ByteStream" <|
    wrap.supplies.bound "wrap"
  exact .template ["stream_type", "ByteStream", "wrap"] bound
    (Template.holes_ofLines (by repeat constructor) (by decide)) (by simp)
    (by simp [List.lookup_cons])

/-- The module of a protocol that reads errors and writes requests asks for what its
contributors ask for, section by section. -/
theorem asks_script (deserializes : g.support.errorDeserialization = true)
    (serializes : g.support.requestSerialization = true) :
    Asks g.script (asked .contentType ++ asked (.errorMetadata "response") ++
      (asked (.payloadType g.runtime) ++ asked (.wrappedPayload "payload" g.runtime))) := by
  rw [script, deserializes, serializes]
  exact ((asks_constants h).append (asks_blankLine.after (asks_errorParser h))).append
    (asks_blankLine.after (asks_streamPayload h))

end ProtocolGenerator

/-! ### Families -/

namespace ProtocolFamily

/-- The supported protocols whose errors are JSON. -/
def jsonProtocols : List ShapeId :=
  [protocolId "restJson1", protocolId "awsJson1_0", protocolId "awsJson1_1"]

/-- What the families of a target have in common. -/
structure IsStandard (f : ProtocolFamily) (target : Target) : Prop where
  extras : f.extras = ProtocolLoader.targetExtras target
  deserializes : f.support.errorDeserialization = true
  serializes : f.support.requestSerialization = true
  /-- Errors are JSON, except for the protocol whose trait tells how they are wrapped. -/
  errorFormat : (f.protocol.id ∈ jsonProtocols ∧ ∀ ctx, f.errorFormat ctx = .json) ∨
    (f.protocol.id = protocolId "restXml" ∧ ∀ ctx, f.errorFormat ctx =
      if isUnwrapped ctx then .xmlUnwrapped else .xmlWrapped)

variable {f : ProtocolFamily} {target : Target}

theorem build_eq (f : ProtocolFamily) (ctx : Context) : f.build ctx = .ok (f.generator ctx) := by
  rw [build, ErrorMetadata.load, Resource.load_eq, Resource.load_eq]
  cases (f.errorMetadata ctx).queryCompatible <;> rfl

/-- Besides what the extras ask for, the file is asked for that errors are read with. -/
theorem asks_customizations {asked : ProtocolSection → List Fragment}
    (h : ∀ s, Asks (f.extras.flatMap fun c => (c.contribute s).getD []) (asked s))
    (ctx : Context) (s : ProtocolSection) :
    Asks ((Customization.compose (f.generator ctx).customizations s).getD [])
      ((f.errorMetadata ctx).askedAt s ++ asked s) := by
  apply Customization.asks_compose
  rw [generator, List.flatMap_cons, List.flatMap_cons]
  exact (asks_contentTypeCustomization f.protocol.contentType s).append <|
    ((f.errorMetadata ctx).asks_customization s).append (h s)

/-- The fragments that the protocol module asks for. -/
def fragments (f : ProtocolFamily) (target : Target) (ctx : Context) : List Fragment :=
  (f.errorMetadata ctx).asked ++
    (streamFragments target ctx.runtime ++ streamFragments target ctx.runtime)

theorem asks_generator (h : f.IsStandard target) (ctx : Context) :
    Asks (f.generator ctx).script (f.fragments target ctx) := by
  have extras := h.extras ▸ asks_targetExtras target
  have asks := ProtocolGenerator.asks_script (asks_customizations extras ctx) h.deserializes
    h.serializes
  rw [fragments]
  convert asks using 1
  simp [ErrorMetadata.askedAt, streamFragmentsAt, generator]

end ProtocolFamily

namespace ProtocolLoader

variable {target : Target} {model : Model} {service protocol : ShapeId} {family : ProtocolFamily}

theorem isStandard_of_select
    (h : (forTarget target).select model service = .ok (protocol, family)) :
    family.protocol.id = protocol ∧ family.IsStandard target := by
  rw [select] at h
  obtain ⟨declared, _, h⟩ := Except.bind_eq_ok_iff.mp h
  cases hc : (forTarget target).firstSupported? declared with
  | none =>
    rw [hc] at h
    cases h
  | some chosen =>
    rw [hc] at h
    cases h
    -- The family stands under the protocol that was found, and only under its own.
    obtain ⟨id, _, found⟩ := List.exists_of_findSome?_eq_some hc
    obtain ⟨f, hf, same⟩ := Option.map_eq_some_iff.mp found
    cases same
    obtain ⟨g, hg, same⟩ := List.mem_map.mp (SortedMap.mem_of_find?_ofList hf)
    cases same
    refine ⟨rfl, ?_⟩
    simp only [List.mem_cons, List.not_mem_nil, or_false] at hg
    rcases hg with rfl | rfl | rfl | rfl
    case inr.inl => exact ⟨rfl, rfl, rfl, .inr ⟨rfl, fun _ => rfl⟩⟩
    case inl => exact ⟨rfl, rfl, rfl, .inl ⟨.head _, fun _ => rfl⟩⟩
    case inr.inr.inl => exact ⟨rfl, rfl, rfl, .inl ⟨.tail _ (.head _), fun _ => rfl⟩⟩
    case inr.inr.inr => exact ⟨rfl, rfl, rfl, .inl ⟨.tail _ (.tail _ (.head _)), fun _ => rfl⟩⟩

end ProtocolLoader

end Cratewright
