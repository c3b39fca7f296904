/-
What the generation of a crate can come to.

The scripts of a service record no error, and the fragments that they ask for are shallow.
So everything after the choice of a protocol and the question for tokens succeeds:

* `Context.exists_artifacts` — the modules of a service are rendered;
* `Artifacts.exists_output` — what they need is written;
* `generateCrate_outcome` — an unknown shape and an unsupported protocol are the only errors.
-/
import Cratewright.Proofs.Config.Scripts
import Cratewright.Proofs.Model.Operations
import Cratewright.Proofs.Protocol.Scripts
import Cratewright.Proofs.Source.Shallow

namespace Cratewright

/-! ### The fragments of a crate -/

theorem ConfigParam.isShallow_declaredWrapper (d : DeclaredParameter) (c : RuntimeConfig) :
    FragmentKind.IsShallow (declaredWrapper d c) :=
  FragmentKind.isShallow_of_asks (asks_wrapperFragment _ (fragments_declaredType d) c) rfl

namespace Context

variable {ctx : Context} {target : Target} {needsToken withPlugin : Bool} {f : Fragment}

/-- Parameters ask for their wrappers if they are kept in a layered bag. -/
theorem mem_asked {s : ConfigSection} (h : f ∈ ctx.storedParams.flatMap (·.asked s)) :
    ctx.storageMode = .layeredBag ∧ ∃ d ∈ ctx.settings.codegen.parameters,
      f = ConfigParam.declaredWrapper d ctx.runtime := by
  obtain ⟨p, hp, hf⟩ := List.mem_flatMap.mp h
  obtain ⟨d, hd, rfl⟩ := List.mem_map.mp hp
  have wrappers : f ∈ (⟨ConfigParam.ofDeclared d ctx.runtime, ctx.storageOf d⟩ :
      StoredParam).wrappers := by
    cases s with
    | functions | builderFunctions => exact hf
    | _ => cases hf
  rw [StoredParam.wrappers, storageOf] at wrappers
  cases mode : ctx.storageMode with
  | directFields =>
    rw [mode] at wrappers
    cases wrappers
  | layeredBag =>
    rw [mode] at wrappers
    exact ⟨rfl, d, hd, List.mem_singleton.mp wrappers⟩

/-- Besides, a configuration asks for where token providers come from. -/
theorem mem_configFragments (h : f ∈ ctx.configFragments needsToken withPlugin) :
    (needsToken = true ∧ f = ctx.tokenProvider.origin) ∨
      (ctx.storageMode = .layeredBag ∧ ∃ d ∈ ctx.settings.codegen.parameters,
        f = ConfigParam.declaredWrapper d ctx.runtime) := by
  obtain ⟨s, _, hs⟩ := List.mem_flatMap.mp h
  rcases List.mem_append.mp hs with token | wrapper
  · cases needsToken with
    | false => cases token
    | true => exact .inl ⟨rfl, List.eq_of_mem_replicate token⟩
  · exact .inr (mem_asked wrapper)

theorem isShallow_configFragments (h : f ∈ ctx.configFragments needsToken withPlugin) :
    FragmentKind.IsShallow f := by
  rcases mem_configFragments h with ⟨_, rfl⟩ | ⟨_, d, _, rfl⟩
  · exact Resource.isShallow_fragment ..
  · exact ConfigParam.isShallow_declaredWrapper ..

end Context

/-- A protocol module asks for the files that errors are read with, and on servers for the
type of streaming bodies. -/
theorem ProtocolFamily.mem_fragments_iff {f : ProtocolFamily} {target : Target} {ctx : Context}
    {g : Fragment} :
    g ∈ f.fragments target ctx ↔
      g = (f.errorFormat ctx).resource.fragment ctx.runtime ∨
      (f.errorFormat ctx = .json ∧ ctx.model.hasTrait ctx.service queryCompatibleTrait ∧
        g = Resource.awsQueryCompatibleErrors.fragment ctx.runtime) ∨
      (target = .server ∧ g = Resource.hyperBodyWrapStream.fragment ctx.runtime) := by
  have stream : g ∈ streamFragments target ctx.runtime ↔
      target = .server ∧ g = Resource.hyperBodyWrapStream.fragment ctx.runtime := by
    cases target <;> simp [streamFragments]
  have parser : g ∈ (f.errorMetadata ctx).asked ↔
      g = (f.errorFormat ctx).resource.fragment ctx.runtime ∨
      (f.errorFormat ctx = .json ∧ ctx.model.hasTrait ctx.service queryCompatibleTrait ∧
        g = Resource.awsQueryCompatibleErrors.fragment ctx.runtime) := by
    rw [ErrorMetadata.asked, errorMetadata, List.mem_cons]
    refine or_congr_right ?_
    by_cases json : f.errorFormat ctx = .json <;>
      cases compatible : ctx.model.hasTrait ctx.service queryCompatibleTrait <;> simp [json]
  rw [fragments, List.mem_append, List.mem_append, or_self, stream, parser, or_assoc]

theorem ProtocolFamily.exists_resource {f : ProtocolFamily} {target : Target} {ctx : Context}
    {g : Fragment} (h : g ∈ f.fragments target ctx) :
    ∃ r : Resource, g = r.fragment ctx.runtime := by
  rcases mem_fragments_iff.mp h with h | ⟨_, _, h⟩ | ⟨_, h⟩ <;> exact ⟨_, h⟩

theorem ErrorMetadata.exists_resource {m : ErrorMetadata} {f : Fragment} (h : f ∈ m.asked) :
    ∃ r : Resource, f = r.fragment m.runtime := by
  rw [asked, List.mem_cons] at h
  rcases h with rfl | h
  · exact ⟨_, rfl⟩
  · split at h
    · exact ⟨_, List.mem_singleton.mp h⟩
    · cases h

/-- A contributor of one's own, which needs a fragment where the content type is given. -/
def ProtocolCustomization.needing (name : String) (f : Fragment) : ProtocolCustomization where
  name
  contribute
    | .contentType => some [.require (.fragment f)]
    | _ => none

/-- With such a contributor the protocol module asks for the contributor's fragment, and
else for files. -/
theorem ProtocolFamily.exists_asks_needing (name : String) {f : Fragment}
    (shallow : FragmentKind.IsShallow f) (ctx : Context) :
    ∃ fs, Writer.Asks ((restJson [.needing name f]).generator ctx).script fs ∧ f ∈ fs ∧
      (∀ g ∈ fs, FragmentKind.IsShallow g) ∧
      ∀ g ∈ fs, g = f ∨ ∃ r : Resource, g = r.fragment ctx.runtime := by
  -- The contributor speaks at one section only, and the metadata of errors at another.
  let asked (s : ProtocolSection) : List Fragment := if s = .contentType then [f] else []
  have extras (s : ProtocolSection) :
      Writer.Asks ((restJson [.needing name f]).extras.flatMap fun c => (c.contribute s).getD [])
        (asked s) := by
    cases s with
    | contentType => exact Writer.asks_require _
    | _ => exact Writer.asks_nil
  have asks := ProtocolGenerator.asks_script (asks_customizations extras ctx) rfl rfl
  simp only [asked, ErrorMetadata.askedAt, reduceCtorEq, ↓reduceIte, List.nil_append,
    List.append_nil] at asks
  have known (g : Fragment) (hg : g ∈ f :: ((restJson [.needing name f]).errorMetadata ctx).asked) :
      g = f ∨ ∃ r : Resource, g = r.fragment ctx.runtime :=
    (List.mem_cons.mp hg).imp_right ErrorMetadata.exists_resource
  refine ⟨_, asks, List.mem_cons_self .., fun g hg => ?_, known⟩
  rcases known g hg with rfl | ⟨r, rfl⟩
  · exact shallow
  · exact r.isShallow_fragment _

/-! ### Rendering and collecting -/

namespace Context

variable {ctx : Context} {target : Target} {needsToken : Bool} {protocol : ShapeId}
  {family : ProtocolFamily}

/-- Once a protocol is chosen and it is known whether tokens are needed, the modules of the
service are rendered, unless something is wrong in the protocol module. -/
theorem exists_artifacts {loader : ProtocolLoader} {fs : List Fragment}
    (chosen : loader.select ctx.model ctx.service = .ok (protocol, family))
    (asks : Writer.Asks (family.generator ctx).script fs)
    (token : ctx.model.needsIdempotencyToken ctx.service = .ok needsToken) (withPlugin : Bool) :
    ∃ a, renderService ctx loader withPlugin = .ok a ∧
      a.service = ctx.service ∧ a.protocol = protocol ∧
      Requirement.fragments a.config.requirements = ctx.configFragments needsToken withPlugin ∧
      Requirement.fragments a.protocolModule.requirements = fs := by
  obtain ⟨protocolModule, hp, protocolFragments⟩ := asks.render
  obtain ⟨config, hc, configFragments⟩ := (ctx.asks_config needsToken withPlugin).render
  refine ⟨⟨ctx.service, protocol, config, protocolModule⟩, ?_, rfl, rfl, configFragments,
    protocolFragments⟩
  have generator : ConfigGenerator.withBaseBehavior ctx (ctx.contributors false)
      = .ok (.new ctx (ctx.contributors needsToken)) := by
    rw [withBaseBehavior_eq, token]
    rfl
  -- The steps of the rendering, in their order.
  refine Except.bind_eq_ok_iff.mpr ⟨_, chosen, ?_⟩
  refine Except.bind_eq_ok_iff.mpr ⟨_, family.build_eq ctx, ?_⟩
  refine Except.bind_eq_ok_iff.mpr ⟨_, hp, ?_⟩
  refine Except.bind_eq_ok_iff.mpr ⟨_, ctx.ofSettings_eq, ?_⟩
  refine Except.bind_eq_ok_iff.mpr ⟨_, generator, ?_⟩
  exact Except.bind_eq_ok_iff.mpr ⟨_, hc, rfl⟩

/-- If it cannot be known whether tokens are needed, nothing else goes wrong before. -/
theorem renderService_of_error
    (chosen : (ProtocolLoader.forTarget target).select ctx.model ctx.service
      = .ok (protocol, family)) {e : Error}
    (token : ctx.model.needsIdempotencyToken ctx.service = .error e) (withPlugin : Bool) :
    renderService ctx (.forTarget target) withPlugin = .error e := by
  have standard := (ProtocolLoader.isStandard_of_select chosen).2
  obtain ⟨protocolModule, hp, _⟩ := (ProtocolFamily.asks_generator standard ctx).render
  -- Every step before the question for tokens succeeds.
  rw [renderService, chosen]
  show (family.build ctx >>= _) = _
  rw [family.build_eq]
  show (render (family.generator ctx).script >>= _) = _
  rw [hp]
  show (ConfigGenerator.ofSettings ctx >>= _) = _
  rw [ctx.ofSettings_eq]
  show (ConfigGenerator.withBaseBehavior ctx _ >>= _) = _
  rw [ctx.withBaseBehavior_eq, token]
  rfl

end Context

/-- A protocol is chosen, or the service is unknown or has no supported protocol. -/
theorem ProtocolLoader.select_cases (l : ProtocolLoader) (model : Model) (service : ShapeId) :
    (∃ protocol family, l.select model service = .ok (protocol, family)) ∨
    (∃ id, l.select model service = .error (.unknownShape id)) ∨
    ∃ declared, l.select model service
      = .error (.unsupportedProtocol service declared l.supported) := by
  rw [select]
  rcases model.serviceProtocols_or_unknown service with ⟨declared, hs⟩ | ⟨id, hs⟩
  · rw [hs]
    cases hc : l.firstSupported? declared with
    | some chosen =>
      refine .inl ⟨chosen.1, chosen.2, ?_⟩
      simp only [bind, Except.bind, hc]
      rfl
    | none =>
      refine .inr (.inr ⟨declared, ?_⟩)
      simp only [bind, Except.bind, hc]
  · rw [hs]
    exact .inr (.inl ⟨id, rfl⟩)

/-- What the rendered modules need is written if the fragments among it are shallow. -/
theorem Artifacts.exists_output (a : Artifacts)
    (shallow : ∀ f ∈ Requirement.fragments (a.outputs.flatMap (·.requirements)),
      FragmentKind.IsShallow f) :
    ∃ run out, (Run.empty : Run Fragment).commit a.service a.outputs = .ok run ∧
      run.finish = .ok out ∧
      out.modules = (Requirement.registered (a.outputs.flatMap (·.requirements))).written := by
  obtain ⟨run, hrun, gathers, _⟩ := Run.gathers_empty.commit a.service a.outputs
  obtain ⟨out, hout, modules⟩ := gathers.finish_of_shallow shallow
  exact ⟨run, out, hrun, hout, modules⟩

/-! ### Generation -/

section Generation

variable {ctx : Context} {target : Target} {needsToken : Bool} {protocol : ShapeId}
  {family : ProtocolFamily}

/-- Once a protocol is chosen and it is known whether tokens are needed, the crate is
generated if the protocol module asks for shallow fragments. -/
theorem exists_generateCrate_of_asks {loader : ProtocolLoader} {fs : List Fragment}
    (chosen : loader.select ctx.model ctx.service = .ok (protocol, family))
    (asks : Writer.Asks (family.generator ctx).script fs)
    (shallow : ∀ f ∈ fs, FragmentKind.IsShallow f)
    (token : ctx.model.needsIdempotencyToken ctx.service = .ok needsToken) (withPlugin : Bool) :
    ∃ a out, renderService ctx loader withPlugin = .ok a ∧
      a.service = ctx.service ∧ a.protocol = protocol ∧
      (∃ log, Requirement.fragments log = ctx.configFragments needsToken withPlugin ++ fs ∧
        out.modules = (Requirement.registered log).written) ∧
      generateCrate ctx loader withPlugin = .ok (a.files ctx.settings out) := by
  obtain ⟨a, ha, service, hprotocol, hconfig, hmodule⟩ :=
    Context.exists_artifacts chosen asks token withPlugin
  have fragments : Requirement.fragments (a.outputs.flatMap (·.requirements))
      = ctx.configFragments needsToken withPlugin ++ fs := by
    rw [Artifacts.outputs, Requirement.fragments_flatMap, ← hconfig, ← hmodule]
    simp
  have shallow : ∀ f ∈ Requirement.fragments (a.outputs.flatMap (·.requirements)),
      FragmentKind.IsShallow f := by
    intro f hf
    rw [fragments] at hf
    rcases List.mem_append.mp hf with hf | hf
    · exact Context.isShallow_configFragments hf
    · exact shallow f hf
  obtain ⟨run, out, hrun, hout, modules⟩ := a.exists_output shallow
  refine ⟨a, out, ha, service, hprotocol, ⟨_, fragments, modules⟩, ?_⟩
  rw [service] at hrun
  refine Except.bind_eq_ok_iff.mpr ⟨_, ha, ?_⟩
  refine Except.bind_eq_ok_iff.mpr ⟨_, hrun, ?_⟩
  exact Except.bind_eq_ok_iff.mpr ⟨_, hout, rfl⟩

/-- The usual families ask for files only, so the crate is generated from the rendered modules
and the fragments that they ask for. -/
theorem exists_generateCrate
    (chosen : (ProtocolLoader.forTarget target).select ctx.model ctx.service
      = .ok (protocol, family))
    (token : ctx.model.needsIdempotencyToken ctx.service = .ok needsToken) (withPlugin : Bool) :
    ∃ a out, renderService ctx (.forTarget target) withPlugin = .ok a ∧
      a.service = ctx.service ∧ a.protocol = protocol ∧
      (∃ log, Requirement.fragments log
          = ctx.configFragments needsToken withPlugin ++ family.fragments target ctx ∧
        out.modules = (Requirement.registered log).written) ∧
      generateCrate ctx (.forTarget target) withPlugin = .ok (a.files ctx.settings out) := by
  have standard := (ProtocolLoader.isStandard_of_select chosen).2
  refine exists_generateCrate_of_asks chosen (ProtocolFamily.asks_generator standard ctx)
    (fun f hf => ?_) token withPlugin
  obtain ⟨r, rfl⟩ := ProtocolFamily.exists_resource hf
  exact r.isShallow_fragment ctx.runtime

theorem generateCrate_of_error {loader : ProtocolLoader} {withPlugin : Bool} {e : Error}
    (h : renderService ctx loader withPlugin = .error e) :
    generateCrate ctx loader withPlugin = .error e := by
  rw [generateCrate, h]
  rfl

/-- **Only the input is at fault.**  For every model, settings and service, a crate is
generated once a protocol is chosen and it is known whether tokens are needed. Otherwise the
error is that of the one or the other: some shape is unknown, or none of the protocols of
the service is supported. -/
theorem generateCrate_outcome (ctx : Context) (target : Target) (withPlugin : Bool) :
    (∃ chosen needsToken files,
      (ProtocolLoader.forTarget target).select ctx.model ctx.service = .ok chosen ∧
      ctx.model.needsIdempotencyToken ctx.service = .ok needsToken ∧
      generateCrate ctx (.forTarget target) withPlugin = .ok files) ∨
    (∃ id,
      ((ProtocolLoader.forTarget target).select ctx.model ctx.service = .error (.unknownShape id) ∨
        ctx.model.needsIdempotencyToken ctx.service = .error (.unknownShape id)) ∧
      generateCrate ctx (.forTarget target) withPlugin = .error (.unknownShape id)) ∨
    ∃ declared,
      (ProtocolLoader.forTarget target).select ctx.model ctx.service
        = .error (.unsupportedProtocol ctx.service declared
          (ProtocolLoader.forTarget target).supported) ∧
      generateCrate ctx (.forTarget target) withPlugin
        = .error (.unsupportedProtocol ctx.service declared
          (ProtocolLoader.forTarget target).supported) := by
  have refused {e : Error}
      (h : (ProtocolLoader.forTarget target).select ctx.model ctx.service = .error e) :
      generateCrate ctx (.forTarget target) withPlugin = .error e := by
    apply generateCrate_of_error
    rw [renderService, h]
    rfl
  rcases (ProtocolLoader.forTarget target).select_cases ctx.model ctx.service with
    ⟨protocol, family, chosen⟩ | ⟨id, unknown⟩ | ⟨declared, unsupported⟩
  · rcases ctx.model.needsIdempotencyToken_cases ctx.service with ⟨needed, token, _⟩ | ⟨id, token⟩
    · obtain ⟨a, out, _, _, _, _, generated⟩ := exists_generateCrate chosen token withPlugin
      exact .inl ⟨_, needed, _, chosen, token, generated⟩
    · have failed := Context.renderService_of_error chosen token withPlugin
      exact .inr (.inl ⟨id, .inr token, generateCrate_of_error failed⟩)
  · exact .inr (.inl ⟨id, .inl unknown, refused unknown⟩)
  · exact .inr (.inr ⟨declared, unsupported, refused unsupported⟩)

end Generation

end Cratewright
