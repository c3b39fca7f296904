/-
The wrappers in a configuration module.

Of the fragments that a crate asks for, the wrappers of parameters are those that are
written into the configuration module. Wrappers of one name have one key, so the first of
them is written, in the order of names:

* `Context.filter_configFragments` — the wrappers that a configuration asks for;
* `Context.first_wrapper` — the wrapper that stands under a name;
* `Context.exists_newtypes` — the parameters whose wrappers are written.
-/
import Cratewright.Proofs.Generation.Outcome

namespace Cratewright

namespace Context

variable {ctx : Context} {needsToken withPlugin : Bool} {target : Target}
  {family : ProtocolFamily}

/-- Whether a fragment is written into the configuration module. -/
def isConfig (f : Fragment) : Bool :=
  decide ((FragmentKind.key f).modulePath = SourceModule.config.path)

theorem isConfig_declaredWrapper (d : DeclaredParameter) (runtime : RuntimeConfig) :
    isConfig (ConfigParam.declaredWrapper d runtime) = true :=
  decide_eq_true rfl

theorem isConfig_fragment (r : Resource) (runtime : RuntimeConfig) :
    isConfig (r.fragment runtime) = false := by
  have ne : r.home.path ≠ SourceModule.config.path := by cases r <;> decide
  exact decide_eq_false ne

/-- The wrappers of the declared parameters. -/
def wrappers (ctx : Context) : List Fragment :=
  match ctx.storageMode with
  | .directFields => []
  | .layeredBag =>
    ctx.settings.codegen.parameters.map fun d => ConfigParam.declaredWrapper d ctx.runtime

theorem flatMap_asked (ctx : Context) (s : ConfigSection) :
    ctx.storedParams.flatMap (·.asked s) =
      match s with
      | .functions | .builderFunctions => ctx.wrappers
      | _ => [] := by
  have all : ctx.storedParams.flatMap StoredParam.wrappers = ctx.wrappers := by
    rw [storedParams, List.flatMap_map, wrappers]
    cases mode : ctx.storageMode with
    | directFields => simp [StoredParam.wrappers, storageOf, mode]
    | layeredBag =>
      rw [List.map_eq_flatMap]
      refine List.flatMap_congr fun d _ => ?_
      rw [StoredParam.wrappers, storageOf, mode]
      rfl
  cases s with
  | functions | builderFunctions => exact all
  | _ => exact List.flatMap_eq_nil_iff.mpr fun _ _ => rfl

/-- The functions of the configuration and those of its builder refer to the wrappers. -/
theorem filter_configFragments :
    (ctx.configFragments needsToken withPlugin).filter isConfig = ctx.wrappers ++ ctx.wrappers := by
  have section_eq (s : ConfigSection) :
      (ctx.askedAt needsToken s).filter isConfig = ctx.storedParams.flatMap (·.asked s) := by
    have token : (if needsToken then
        List.replicate (TokenProvider.uses ctx.storageMode s) ctx.tokenProvider.origin
        else []).filter isConfig = [] := by
      rw [List.filter_eq_nil_iff]
      intro f hf
      cases needsToken with
      | false => cases hf
      | true =>
        rw [List.eq_of_mem_replicate hf]
        exact Bool.eq_false_iff.mp (isConfig_fragment _ _)
    have wrapper : (ctx.storedParams.flatMap (·.asked s)).filter isConfig
        = ctx.storedParams.flatMap (·.asked s) := by
      rw [List.filter_eq_self]
      intro f hf
      obtain ⟨_, d, _, rfl⟩ := mem_asked hf
      exact isConfig_declaredWrapper d ctx.runtime
    rw [askedAt, List.filter_append, token, wrapper, List.nil_append]
  rw [configFragments, List.filter_flatMap]
  simp only [section_eq, flatMap_asked]
  cases ctx.storageMode <;> cases withPlugin <;> simp [ConfigGenerator.sections]

theorem filter_fragments :
    (family.fragments target ctx).filter isConfig = [] := by
  rw [List.filter_eq_nil_iff]
  intro f hf
  obtain ⟨r, rfl⟩ := ProtocolFamily.exists_resource hf
  exact Bool.eq_false_iff.mp (isConfig_fragment r ctx.runtime)

variable {log : List (Requirement Fragment)}
  (hlog : Requirement.fragments log
    = ctx.configFragments needsToken withPlugin ++ family.fragments target ctx)

include hlog in
/-- What stands first under a name in the configuration module is the first wrapper of that
name. -/
theorem first_wrapper (name : String) :
    Requirement.first log ⟨SourceModule.config.path, name⟩
      = ctx.wrappers.find? fun f => f.name == name := by
  have key (f : Fragment) : (FragmentKind.key f == ⟨SourceModule.config.path, name⟩)
      = decide (isConfig f = true ∧ (f.name == name) = true) := by
    rw [Bool.eq_iff_iff, beq_iff_eq, decide_eq_true_iff, isConfig, decide_eq_true_iff,
      beq_iff_eq, FragmentKey.mk.injEq]
    rfl
  rw [Requirement.first, hlog]
  simp only [key]
  -- The wrappers are asked for twice, and the second time finds nothing new.
  rw [← List.find?_filter, List.filter_append, filter_configFragments, filter_fragments,
    List.append_nil, List.find?_append, Option.or_self]

/-- The parameter that is declared first among those whose wrappers are of one name. -/
def firstOf? (ctx : Context) (name : String) : Option DeclaredParameter :=
  ctx.settings.codegen.parameters.find? fun d => ConfigParam.wrapperName d == name

/-- The parameters whose wrappers are written: of each name the first, in the order of names,
and none without a layered bag. -/
structure IsNewtypes (ctx : Context) (ds : List DeclaredParameter) : Prop where
  increasing : ds.Pairwise fun d e =>
    compare (ConfigParam.wrapperName d) (ConfigParam.wrapperName e) = .lt
  mem_iff : ∀ d, d ∈ ds ↔ ctx.storageMode = .layeredBag ∧
    ctx.firstOf? (ConfigParam.wrapperName d) = some d

theorem find?_wrappers (ctx : Context) (name : String) :
    (ctx.wrappers.find? fun f => f.name == name) =
      match ctx.storageMode with
      | .directFields => none
      | .layeredBag => (ctx.firstOf? name).map (ConfigParam.declaredWrapper · ctx.runtime) := by
  rw [wrappers]
  cases ctx.storageMode with
  | directFields => rfl
  | layeredBag =>
    rw [List.find?_map]
    rfl

include hlog in
/-- A fragment is written into the configuration module if it is the wrapper of the first
parameter of its name. -/
theorem mem_written_iff {f : Fragment} :
    f ∈ (Requirement.registered log).toList.filter isConfig ↔
      ctx.storageMode = .layeredBag ∧
        ∃ d, ctx.firstOf? f.name = some d ∧ f = ConfigParam.declaredWrapper d ctx.runtime := by
  rw [List.mem_filter, (Requirement.keyed_registered log).mem_toList_iff,
    Requirement.get?_registered]
  constructor
  · rintro ⟨first, config⟩
    have path : (FragmentKind.key f).modulePath = SourceModule.config.path :=
      of_decide_eq_true config
    have key : FragmentKind.key f = ⟨SourceModule.config.path, f.name⟩ := by
      rw [← path]
      rfl
    rw [key, first_wrapper hlog, find?_wrappers] at first
    cases mode : ctx.storageMode with
    | directFields =>
      rw [mode] at first
      cases first
    | layeredBag =>
      rw [mode] at first
      obtain ⟨d, hd, rfl⟩ := Option.map_eq_some_iff.mp first
      exact ⟨rfl, d, hd, rfl⟩
  · rintro ⟨mode, d, hd, rfl⟩
    refine ⟨?_, isConfig_declaredWrapper d ctx.runtime⟩
    rw [ConfigParam.key_declaredWrapper, first_wrapper hlog, find?_wrappers, mode,
      Option.map_eq_some_iff]
    exact ⟨d, hd, rfl⟩

include hlog in
/-- The wrappers that are written are those of the first parameters of each name. -/
theorem exists_newtypes : ∃ ds, ctx.IsNewtypes ds ∧
    (Requirement.registered log).toList.filter isConfig
      = ds.map fun d => ConfigParam.declaredWrapper d ctx.runtime := by
  have sorted := (Requirement.keyed_registered log).pairwise_toList.filter isConfig
  have mem (f : Fragment) := mem_written_iff hlog (f := f)
  generalize (Requirement.registered log).toList.filter isConfig = fs at sorted mem
  -- Each fragment is recovered from its name, by the parameter declared first under it.
  have wrapped : fs = (fs.filterMap fun f => ctx.firstOf? f.name).map
      fun d => ConfigParam.declaredWrapper d ctx.runtime := by
    rw [List.map_filterMap]
    refine List.filterMap_some.symm.trans (List.filterMap_congr fun f hf => ?_)
    obtain ⟨_, d, hd, rfl⟩ := (mem f).mp hf
    rw [hd]
    rfl
  refine ⟨_, ⟨?_, fun d => ?_⟩, wrapped⟩
  · rw [wrapped, List.pairwise_map] at sorted
    refine sorted.imp fun {d e} lt => ?_
    rwa [ConfigParam.key_declaredWrapper, ConfigParam.key_declaredWrapper,
      Registry.compare_same_path] at lt
  · rw [List.mem_filterMap]
    constructor
    · rintro ⟨f, hf, hd⟩
      obtain ⟨mode, d', hd', rfl⟩ := (mem f).mp hf
      rw [hd'] at hd
      cases hd
      exact ⟨mode, hd'⟩
    · rintro ⟨mode, hd⟩
      rw [← ConfigParam.name_declaredWrapper d ctx.runtime] at hd
      exact ⟨_, (mem _).mpr ⟨mode, d, hd, rfl⟩, hd⟩

end Context

end Cratewright
