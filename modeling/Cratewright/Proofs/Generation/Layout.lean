/-
The layout of a generated crate.

Which modules a crate has depends on the protocol that was chosen for its service, on the
target, and on whether an operation takes an idempotency token. Modules are told apart by
their names, so each has its own file and its own declaration:

* `SourceModule.eq_of_path_eq` — the modules that a crate can have, and what tells them apart;
* `Context.exists_written_iff` — the modules of the fragments that are written;
* `Artifacts.find?_config` — what stands after the rendered configuration;
* `generateCrate_layout` — the files of a crate, its root and its configuration.
-/
import Mathlib.Data.List.Nodup
import Cratewright.Proofs.Generation.Assembly
import Cratewright.Proofs.Generation.Newtypes

namespace Cratewright

/-! ### Modules -/

namespace SourceModule

/-- The modules that a crate can have. -/
def known : List SourceModule := .config :: .protocol :: Resource.all.map Resource.home

theorem nodup_files_known :
    (Artifacts.manifestFile :: Artifacts.libFile :: known.map file).Nodup := by
  decide

theorem nodup_declarations_known : (known.map declaration).Nodup := by
  decide

theorem path_eq_iff {m n : SourceModule} : m.path = n.path ↔ m.name = n.name := by
  simp [path]

theorem file_eq_iff {m n : SourceModule} : m.file = n.file ↔ m.name = n.name := by
  simp [file]

theorem eq_of_path_eq {m n : SourceModule} (hm : m ∈ known) (hn : n ∈ known)
    (same : m.path = n.path) : m = n := by
  have distinct := (List.nodup_cons.mp (List.nodup_cons.mp nodup_files_known).2).2
  exact List.inj_on_of_nodup_map distinct hm hn (file_eq_iff.mpr (path_eq_iff.mp same))

end SourceModule

namespace Resource

theorem mem_all (r : Resource) : r ∈ all := by
  cases r <;> decide

theorem home_mem_known (r : Resource) : r.home ∈ SourceModule.known :=
  List.mem_cons_of_mem _ (List.mem_cons_of_mem _ (List.mem_map_of_mem r.mem_all))

end Resource

namespace Context

/-- The service's trait says that its errors are the roots of their documents. -/
def NoErrorWrapping (ctx : Context) : Prop :=
  ∃ value setting, ctx.model.traitValue? ctx.service (protocolId "restXml") = some value ∧
    value.field? "noErrorWrapping" = some setting ∧ setting.asFlag? = some true

theorem isUnwrapped_iff (ctx : Context) :
    ProtocolFamily.isUnwrapped ctx = true ↔ ctx.NoErrorWrapping := by
  rw [ProtocolFamily.isUnwrapped, Option.getD_eq_iff]
  simp [NoErrorWrapping, Option.bind_eq_some_iff]

/-- Some operation of the service takes an idempotency token. -/
def TakesToken (ctx : Context) : Prop :=
  ∃ operation, ctx.model.HasOperation ctx.service operation ∧ ctx.model.TakesToken operation

/-- The modules of the crate of a service that speaks a protocol. -/
inductive HasModule (ctx : Context) (target : Target) (protocol : ShapeId) :
    SourceModule → Prop where
  | config : HasModule ctx target protocol .config
  | protocol : HasModule ctx target protocol .protocol
  | jsonErrors : protocol ∈ ProtocolFamily.jsonProtocols →
      HasModule ctx target protocol Resource.jsonErrors.home
  | queryErrors : protocol ∈ ProtocolFamily.jsonProtocols →
      ctx.model.hasTrait ctx.service queryCompatibleTrait →
      HasModule ctx target protocol Resource.awsQueryCompatibleErrors.home
  | unwrappedErrors : protocol = protocolId "restXml" → ctx.NoErrorWrapping →
      HasModule ctx target protocol Resource.restXmlUnwrappedErrors.home
  | wrappedErrors : protocol = protocolId "restXml" → ¬ ctx.NoErrorWrapping →
      HasModule ctx target protocol Resource.restXmlWrappedErrors.home
  | streamBody : target = .server → HasModule ctx target protocol Resource.hyperBodyWrapStream.home
  | tokens : ctx.TakesToken → HasModule ctx target protocol Resource.idempotencyToken.home

variable {ctx : Context} {target : Target} {needsToken withPlugin : Bool} {protocol : ShapeId}
  {family : ProtocolFamily} {m : SourceModule}

theorem HasModule.mem_known (h : ctx.HasModule target protocol m) : m ∈ SourceModule.known := by
  cases h with
  | config => exact List.mem_cons_self ..
  | protocol => exact List.mem_cons_of_mem _ (List.mem_cons_self ..)
  | jsonErrors | queryErrors | unwrappedErrors | wrappedErrors | streamBody | tokens =>
    exact Resource.home_mem_known _

/-! ### Modules of fragments -/

/-- The format of the errors of a standard family, which tells its kind of protocol. -/
theorem errorFormat_iff (ctx : Context) (standard : family.IsStandard target) :
    (family.errorFormat ctx = .json ↔ family.protocol.id ∈ ProtocolFamily.jsonProtocols) ∧
    (family.errorFormat ctx = .xmlUnwrapped ↔
      family.protocol.id = protocolId "restXml" ∧ ctx.NoErrorWrapping) ∧
    (family.errorFormat ctx = .xmlWrapped ↔
      family.protocol.id = protocolId "restXml" ∧ ¬ ctx.NoErrorWrapping) := by
  have apart : protocolId "restXml" ∉ ProtocolFamily.jsonProtocols := by decide
  rcases standard.errorFormat with ⟨json, format⟩ | ⟨xml, format⟩
  · have ne : family.protocol.id ≠ protocolId "restXml" := fun same => apart (same ▸ json)
    simp [format, json, ne]
  · rw [format, xml, ← ctx.isUnwrapped_iff]
    cases ProtocolFamily.isUnwrapped ctx <;> simp [apart]

theorem hasModule_of_mem_fragments (standard : family.IsStandard target) {f : Fragment}
    (h : f ∈ family.fragments target ctx) :
    ctx.HasModule target family.protocol.id f.home := by
  have ⟨json, unwrapped, wrapped⟩ := errorFormat_iff ctx standard
  rcases ProtocolFamily.mem_fragments_iff.mp h with rfl | ⟨format, trait, rfl⟩ | ⟨server, rfl⟩
  · cases format : family.errorFormat ctx with
    | json => exact .jsonErrors (json.mp format)
    | xmlUnwrapped => exact .unwrappedErrors (unwrapped.mp format).1 (unwrapped.mp format).2
    | xmlWrapped => exact .wrappedErrors (wrapped.mp format).1 (wrapped.mp format).2
  · exact .queryErrors (json.mp format) trait
  · exact .streamBody server

theorem hasModule_of_mem_configFragments (token : needsToken = true ↔ ctx.TakesToken)
    {f : Fragment} (h : f ∈ ctx.configFragments needsToken withPlugin) :
    ctx.HasModule target protocol f.home := by
  rcases mem_configFragments h with ⟨needed, rfl⟩ | ⟨_, d, _, rfl⟩
  · exact .tokens (token.mp needed)
  · exact .config

/-- The getter of a configuration refers to where its token provider comes from. -/
theorem origin_mem_configFragments :
    ctx.tokenProvider.origin ∈ ctx.configFragments true withPlugin := by
  refine List.mem_flatMap.mpr ⟨.functions, ?_, ?_⟩
  · cases ctx.storageMode <;> simp [ConfigGenerator.sections]
  · refine List.mem_append_left _ (List.mem_replicate.mpr ⟨?_, rfl⟩)
    cases ctx.storageMode <;> decide

theorem hasModule_of_mem (standard : family.IsStandard target)
    (token : needsToken = true ↔ ctx.TakesToken) {f : Fragment}
    (h : f ∈ ctx.configFragments needsToken withPlugin ++ family.fragments target ctx) :
    ctx.HasModule target family.protocol.id f.home := by
  rcases List.mem_append.mp h with h | h
  · exact hasModule_of_mem_configFragments token h
  · exact hasModule_of_mem_fragments standard h

theorem exists_home_of_hasModule (standard : family.IsStandard target)
    (token : needsToken = true ↔ ctx.TakesToken)
    (h : ctx.HasModule target family.protocol.id m) :
    m = .config ∨ m = .protocol ∨
      ∃ f ∈ ctx.configFragments needsToken withPlugin ++ family.fragments target ctx,
        f.home = m := by
  have ⟨json, unwrapped, wrapped⟩ := errorFormat_iff ctx standard
  have asked {r : Resource} (hr : r.fragment ctx.runtime ∈ family.fragments target ctx) :
      ∃ f ∈ ctx.configFragments needsToken withPlugin ++ family.fragments target ctx,
        f.home = r.home :=
    ⟨_, List.mem_append_right _ hr, rfl⟩
  have parser {format : ErrorFormat} (h : family.errorFormat ctx = format) :
      format.resource.fragment ctx.runtime ∈ family.fragments target ctx :=
    ProtocolFamily.mem_fragments_iff.mpr (.inl (by rw [h]))
  cases h with
  | config => exact .inl rfl
  | protocol => exact .inr (.inl rfl)
  | jsonErrors id => exact .inr (.inr (asked (parser (json.mpr id))))
  | unwrappedErrors id trait => exact .inr (.inr (asked (parser (unwrapped.mpr ⟨id, trait⟩))))
  | wrappedErrors id trait => exact .inr (.inr (asked (parser (wrapped.mpr ⟨id, trait⟩))))
  | queryErrors id trait =>
    exact .inr (.inr (asked (ProtocolFamily.mem_fragments_iff.mpr
      (.inr (.inl ⟨json.mpr id, trait, rfl⟩)))))
  | streamBody server =>
    exact .inr (.inr (asked (ProtocolFamily.mem_fragments_iff.mpr (.inr (.inr ⟨server, rfl⟩)))))
  | tokens takes =>
    rw [token.mpr takes]
    exact .inr (.inr ⟨_, List.mem_append_left _ origin_mem_configFragments, rfl⟩)

variable {log : List (Requirement Fragment)}
  (hlog : Requirement.fragments log
    = ctx.configFragments needsToken withPlugin ++ family.fragments target ctx)

include hlog in
/-- Fragments of one path are of one module, since modules that a crate can have are told
apart by their paths. -/
theorem homed (standard : family.IsStandard target) (token : needsToken = true ↔ ctx.TakesToken) :
    ∀ f ∈ Requirement.fragments log, ∀ g ∈ Requirement.fragments log,
      (FragmentKind.home f).path = (FragmentKind.home g).path →
        FragmentKind.home f = FragmentKind.home g := by
  have known (f : Fragment) (hf : f ∈ Requirement.fragments log) :
      FragmentKind.home f ∈ SourceModule.known := by
    rw [hlog] at hf
    exact (hasModule_of_mem standard token hf).mem_known
  exact fun f hf g hg => SourceModule.eq_of_path_eq (known f hf) (known g hg)

include hlog in
/-- The modules of a crate are the two of the service and those that are written. -/
theorem exists_written_iff (standard : family.IsStandard target)
    (token : needsToken = true ↔ ctx.TakesToken) :
    (m = .config ∨ m = .protocol ∨ ∃ w ∈ (Requirement.registered log).written, w.home = m) ↔
      ctx.HasModule target family.protocol.id m := by
  rw [Registry.exists_home_registered_iff (homed hlog standard token), hlog]
  constructor
  · rintro (rfl | rfl | ⟨f, hf, rfl⟩)
    · exact .config
    · exact .protocol
    · exact hasModule_of_mem standard token hf
  · exact exists_home_of_hasModule standard token

/-! ### The configuration -/

/-- The text of a parameter's wrapper. -/
def newtypeText (ctx : Context) (d : DeclaredParameter) : String :=
  (FragmentKind.written (ConfigParam.declaredWrapper d ctx.runtime)).contents

end Context

/-- A text that others follow, each on a line of its own. -/
theorem Text.join_lines {text : String} {ls : List String} (h : ls ≠ []) :
    text ++ "\n" ++ "\n".intercalate ls = text ++ String.join (ls.map ("\n" ++ ·)) := by
  induction ls generalizing text with
  | nil => exact absurd rfl h
  | cons l ls ih =>
    rw [List.map_cons, String.join_cons, ← String.append_assoc, ← String.append_assoc]
    by_cases rest : ls = []
    · subst rest
      simp
    · rw [String.intercalate_cons_of_ne_nil rest, ← ih rest]
      simp only [String.append_assoc]

namespace Artifacts

open Context

variable {ctx : Context} {target : Target} {needsToken withPlugin : Bool}
  {family : ProtocolFamily} {log : List (Requirement Fragment)}

theorem pairwise_file_ne {modules : List WrittenModule}
    (h : modules.Pairwise fun v w => v.home.path ≠ w.home.path) :
    modules.Pairwise fun v w => v.home.file ≠ w.home.file :=
  h.imp fun ne same =>
    ne (SourceModule.path_eq_iff.mpr (SourceModule.file_eq_iff.mp same))

/-- The wrappers of the first parameters of each name follow the rendered configuration. -/
theorem find?_config (a : Artifacts) {out : RunOutput}
    (hlog : Requirement.fragments log
      = ctx.configFragments needsToken withPlugin ++ family.fragments target ctx)
    (modules : out.modules = (Requirement.registered log).written) :
    ∃ ds, ctx.IsNewtypes ds ∧
      (a.files ctx.settings out).find? SourceModule.config.file
        = some (a.config.contents ++ String.join (ds.map fun d => "\n" ++ ctx.newtypeText d)) := by
  have keyed := Requirement.keyed_registered log
  obtain ⟨ds, newtypes, written⟩ := exists_newtypes hlog
  refine ⟨ds, newtypes, ?_⟩
  -- The wrappers are in one module, which is put after the rendered configuration. Without
  -- wrappers there is no such module, and an empty one would add a line feed.
  have manifest : SourceModule.config.file ≠ manifestFile := by decide
  have lib : SourceModule.config.file ≠ libFile := by decide
  rw [find?_files, if_neg manifest, if_neg lib, modules,
    find?_moduleFiles (pairwise_file_ne keyed.pairwise_written)]
  cases found : (Requirement.registered log).written.find?
      (·.home.file == SourceModule.config.file) with
  | none =>
    have none : ds = [] := by
      rw [← List.map_eq_nil_iff, ← written, List.filter_eq_nil_iff]
      intro f hf config
      obtain ⟨w, hw, path⟩ := keyed.exists_written hf
      refine List.find?_eq_none.mp found w hw (beq_iff_eq.mpr ?_)
      rw [SourceModule.file_eq_iff, ← SourceModule.path_eq_iff, path]
      exact of_decide_eq_true config
    rw [none]
    simp
  | some w =>
    have hw := List.mem_of_find?_eq_some found
    have path := List.find?_some found
    rw [beq_iff_eq, SourceModule.file_eq_iff, ← SourceModule.path_eq_iff] at path
    have contents : w.contents = "\n".intercalate (ds.map ctx.newtypeText) := by
      rw [keyed.contents_eq hw, path]
      refine congrArg _ ((congrArg _ written).trans ?_)
      rw [List.map_map]
      rfl
    have some : ds.map ctx.newtypeText ≠ [] := by
      obtain ⟨f, hf, home⟩ := keyed.exists_of_mem_written hw
      have config : f ∈ (Requirement.registered log).toList.filter isConfig :=
        List.mem_filter.mpr ⟨hf, decide_eq_true ((congrArg SourceModule.path home).trans path)⟩
      rw [written] at config
      obtain ⟨d, hd, _⟩ := List.mem_map.mp config
      exact List.ne_nil_of_mem (List.mem_map_of_mem hd)
    simp only [↓reduceIte, contents, Text.join_lines some, List.map_map]
    rfl

end Artifacts

/-! ### The crate -/

section Crate

open Artifacts

variable {ctx : Context} {target : Target} {withPlugin : Bool} {files : SortedMap String String}

/-- A crate of some modules, with the lines that declare them and the parameters whose
wrappers are written. -/
structure CrateLayout (ctx : Context) (target : Target) (a : Artifacts)
    (files : SortedMap String String) (modules : List SourceModule) (lines : List String)
    (newtypes : List DeclaredParameter) : Prop where
  nodup : modules.Nodup
  mem_iff : ∀ m, m ∈ modules ↔ ctx.HasModule target a.protocol m
  keys_perm : files.keys.Perm (manifestFile :: libFile :: modules.map SourceModule.file)
  /-- Each module is declared once. -/
  lines_perm : lines.Perm (modules.map SourceModule.declaration)
  lib_eq : files.find? libFile = some (a.crateDocs ++ String.join (lines.map (· ++ "\n")))
  isNewtypes : ctx.IsNewtypes newtypes
  config_eq : files.find? SourceModule.config.file
    = some (a.config.contents ++ String.join (newtypes.map fun d => "\n" ++ ctx.newtypeText d))

open Classical in
theorem exists_modules (ctx : Context) (target : Target) (protocol : ShapeId) :
    ∃ modules : List SourceModule, modules.Sublist SourceModule.known ∧
      ∀ m, m ∈ modules ↔ ctx.HasModule target protocol m := by
  refine ⟨SourceModule.known.filter fun m => ctx.HasModule target protocol m,
    List.filter_sublist, fun m => ?_⟩
  rw [List.mem_filter, decide_eq_true_iff]
  exact and_iff_right_of_imp Context.HasModule.mem_known

/-- A crate that was generated comes from a chosen protocol, and it was known whether tokens
are needed. -/
theorem exists_of_generateCrate
    (h : generateCrate ctx (.forTarget target) withPlugin = .ok files) :
    ∃ protocol family needsToken,
      (ProtocolLoader.forTarget target).select ctx.model ctx.service = .ok (protocol, family) ∧
      ctx.model.needsIdempotencyToken ctx.service = .ok needsToken ∧
      (needsToken = true ↔ ctx.TakesToken) := by
  obtain ⟨a, rendered, _⟩ := Except.bind_eq_ok_iff.mp h
  obtain ⟨⟨protocol, family⟩, chosen, _⟩ := Except.bind_eq_ok_iff.mp rendered
  rcases ctx.model.needsIdempotencyToken_cases ctx.service with ⟨needed, token, takes⟩ | ⟨id, token⟩
  · exact ⟨protocol, family, needed, chosen, token, takes⟩
  · rw [Context.renderService_of_error chosen token withPlugin] at rendered
    cases rendered

/-- The files of a crate are its manifest, its root, and those of its modules. -/
theorem exists_keys_perm (h : generateCrate ctx (.forTarget target) withPlugin = .ok files) :
    ∃ protocol family, ∃ modules : List SourceModule,
      (ProtocolLoader.forTarget target).select ctx.model ctx.service = .ok (protocol, family) ∧
      (∀ m, m ∈ modules ↔ ctx.HasModule target protocol m) ∧
      files.keys.Perm (manifestFile :: libFile :: modules.map SourceModule.file) := by
  obtain ⟨protocol, family, needsToken, chosen, token, takes⟩ := exists_of_generateCrate h
  obtain ⟨a, out, _, _, _, ⟨log, hlog, hmodules⟩, generated⟩ :=
    exists_generateCrate chosen token withPlugin
  rw [generated] at h
  cases h
  have ⟨hid, standard⟩ := ProtocolLoader.isStandard_of_select chosen
  have distinct := pairwise_file_ne (Requirement.keyed_registered log).pairwise_written
  obtain ⟨modules, sub, mem_iff⟩ := exists_modules ctx target protocol
  have files_nodup := SourceModule.nodup_files_known.sublist
    (((sub.map SourceModule.file).cons_cons libFile).cons_cons manifestFile)
  refine ⟨protocol, family, modules, chosen, mem_iff, ?_⟩
  refine keys_files_perm (fun m => ?_) files_nodup (hmodules ▸ distinct)
  rw [mem_iff, hmodules, Context.exists_written_iff hlog standard takes, hid]

/-- The identifier of a service. -/
def clock : ShapeId := ⟨"time", "Clock", none⟩

/-- A service without operations that speaks JSON. -/
def clockModel : Model :=
  ({} : Model).insert clock <|
    .service { traits := SortedMap.ofList [(protocolId "restJson1", .object [])] }

/-- The service, with the parameters of its configuration. -/
def clockContext (parameters : List DeclaredParameter) : Context where
  model := clockModel
  service := clock
  settings := { moduleName := "clock", codegen := { parameters } }

theorem Model.needsIdempotencyToken_of_no_operations {model : Model} {service : ShapeId}
    (none : model.operations service = .ok []) :
    model.needsIdempotencyToken service = .ok false := by
  rw [Model.needsIdempotencyToken, none]
  rfl

/-- The crate of a service without operations is generated once a protocol is chosen. -/
theorem exists_crate_of_no_operations (ctx : Context) {protocol : ShapeId}
    {family : ProtocolFamily}
    (chosen : (ProtocolLoader.forTarget target).select ctx.model ctx.service
      = .ok (protocol, family)) (none : ctx.model.operations ctx.service = .ok [])
    (withPlugin : Bool) : ∃ files, generateCrate ctx (.forTarget target) withPlugin = .ok files := by
  have token := Model.needsIdempotencyToken_of_no_operations none
  obtain ⟨_, _, _, _, _, _, generated⟩ := exists_generateCrate chosen token withPlugin
  exact ⟨_, generated⟩

theorem select_clock : (ProtocolLoader.forTarget .client).select clockModel clock
    = .ok (protocolId "restJson1", .restJson []) :=
  rfl

theorem operations_clock : clockModel.operations clock = .ok [] := by
  show (clockModel.walk _ (SortedSet.ofList []) [] >>= _) = _
  rw [Model.walk]
  rfl

theorem token_clock (parameters : List DeclaredParameter) :
    (clockContext parameters).model.needsIdempotencyToken (clockContext parameters).service
      = .ok false :=
  Model.needsIdempotencyToken_of_no_operations operations_clock

/-- Without tokens and parameters a configuration asks for nothing. -/
theorem configFragments_clock : (clockContext []).configFragments false false = [] := by
  refine List.eq_nil_iff_forall_not_mem.mpr fun f hf => ?_
  rcases Context.mem_configFragments hf with ⟨token, _⟩ | ⟨_, d, hd, _⟩
  · cases token
  · cases hd

theorem exists_crate_clock (parameters : List DeclaredParameter) :
    ∃ files, generateCrate (clockContext parameters) (.forTarget .client) false = .ok files :=
  exists_crate_of_no_operations (clockContext parameters) select_clock operations_clock false

end Crate

end Cratewright
