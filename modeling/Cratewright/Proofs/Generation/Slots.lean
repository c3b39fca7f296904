/-
The places of parameters in a layered bag.

A layered bag has a place for each type, and a parameter's type there is its wrapper. Fields
are named after the words of a parameter's name, but wrappers after these words run
together, so parameters with fields of their own can share a wrapper. Then the one that is
declared first decides what the wrapper wraps:

* `ConfigParam.key_declaredWrapper_eq_iff` — which parameters share a wrapper;
* `generateCrate_slots` — the wrappers that a generated configuration holds.
-/
import Cratewright.Proofs.Generation.Layout
import Cratewright.Proofs.Text.Words

namespace Cratewright

namespace ConfigParam

theorem wrapperName_eq_iff {d e : DeclaredParameter} :
    wrapperName d = wrapperName e ↔ Text.upperCamelCase d.name = Text.upperCamelCase e.name :=
  String.append_left_inj "Param"

theorem key_declaredWrapper_eq_iff {d e : DeclaredParameter} (runtime : RuntimeConfig) :
    FragmentKind.key (declaredWrapper d runtime) = FragmentKind.key (declaredWrapper e runtime) ↔
      Text.upperCamelCase d.name = Text.upperCamelCase e.name := by
  rw [key_declaredWrapper, key_declaredWrapper, FragmentKey.mk.injEq, wrapperName_eq_iff]
  exact and_iff_right rfl

end ConfigParam

namespace Context

variable {ctx : Context} {d e : DeclaredParameter}

/-- The parameter that decides what a parameter's wrapper wraps. -/
theorem firstOf?_wrapperName (ctx : Context) (d : DeclaredParameter) :
    ctx.firstOf? (ConfigParam.wrapperName d) = ctx.settings.codegen.parameters.find? fun p =>
      Text.upperCamelCase p.name == Text.upperCamelCase d.name := by
  have same (p : DeclaredParameter) :
      (ConfigParam.wrapperName p == ConfigParam.wrapperName d)
        = (Text.upperCamelCase p.name == Text.upperCamelCase d.name) := by
    rw [Bool.eq_iff_iff, beq_iff_eq, beq_iff_eq, ConfigParam.wrapperName_eq_iff]
  simp only [firstOf?, same]

/-- Of the parameters that share a wrapper, the wrapper of the first is written. -/
theorem IsNewtypes.mem_and_key_eq_iff {newtypes : List DeclaredParameter}
    (h : ctx.IsNewtypes newtypes) (layered : ctx.storageMode = .layeredBag) :
    (e ∈ newtypes ∧ FragmentKind.key (ConfigParam.declaredWrapper e ctx.runtime)
        = FragmentKind.key (ConfigParam.declaredWrapper d ctx.runtime)) ↔
      (ctx.settings.codegen.parameters.find? fun p =>
        Text.upperCamelCase p.name == Text.upperCamelCase d.name) = some e := by
  rw [h.mem_iff, ConfigParam.key_declaredWrapper_eq_iff, firstOf?_wrapperName]
  constructor
  · rintro ⟨⟨_, first⟩, same⟩
    rwa [same] at first
  · intro first
    have same := List.find?_some first
    rw [beq_iff_eq] at same
    rw [← same] at first
    exact ⟨⟨layered, first⟩, same⟩

end Context

variable {ctx : Context} {target : Target} {withPlugin : Bool} {files : SortedMap String String}

/-- **Parameters that share a place.**  In a layered bag, parameters have places of their own
if their names differ in upper camel case. The wrapper that a generated configuration holds
for a parameter is that of the parameter declared first among those that share it. -/
theorem generateCrate_slots (layered : ctx.storageMode = .layeredBag)
    (h : generateCrate ctx (.forTarget target) withPlugin = .ok files) :
    ((ctx.settings.codegen.parameters.Pairwise fun d e =>
        FragmentKind.key (ConfigParam.declaredWrapper d ctx.runtime)
          ≠ FragmentKind.key (ConfigParam.declaredWrapper e ctx.runtime)) ↔
      ctx.settings.codegen.parameters.Pairwise fun d e =>
        Text.upperCamelCase d.name ≠ Text.upperCamelCase e.name) ∧
    ∃ (a : Artifacts) (newtypes : List DeclaredParameter),
      renderService ctx (.forTarget target) withPlugin = .ok a ∧
      files.find? SourceModule.config.file = some (a.config.contents ++
        String.join (newtypes.map fun d => "\n" ++ ctx.newtypeText d)) ∧
      ∀ d ∈ ctx.settings.codegen.parameters, ∀ e,
        (e ∈ newtypes ∧ FragmentKind.key (ConfigParam.declaredWrapper e ctx.runtime)
            = FragmentKind.key (ConfigParam.declaredWrapper d ctx.runtime)) ↔
          (ctx.settings.codegen.parameters.find? fun p =>
            Text.upperCamelCase p.name == Text.upperCamelCase d.name) = some e := by
  refine ⟨?_, ?_⟩
  · simp only [ne_eq, ConfigParam.key_declaredWrapper_eq_iff]
  · obtain ⟨_, _, _, chosen, token, _⟩ := exists_of_generateCrate h
    obtain ⟨a, out, rendered, _, _, ⟨log, hlog, hmodules⟩, generated⟩ :=
      exists_generateCrate chosen token withPlugin
    rw [generated] at h
    cases h
    obtain ⟨newtypes, isNewtypes, config⟩ := a.find?_config hlog hmodules
    exact ⟨a, newtypes, rendered, config, fun _ _ _ => isNewtypes.mem_and_key_eq_iff layered⟩

/-- Two parameters whose fields differ, but whose wrappers do not. -/
def timeouts : List DeclaredParameter :=
  [{ name := "timeout_1", typePath := "u32" }, { name := "timeout1", typePath := "u64" }]

theorem pairwise_snakeCase_timeouts :
    timeouts.Pairwise fun d e => Text.snakeCase d.name ≠ Text.snakeCase e.name := by
  have ne : Text.lowerWords "timeout_1" ≠ Text.lowerWords "timeout1" := by decide
  simpa [timeouts, Text.snakeCase_eq_iff] using ne

/-- Of the two wrappers, the first is written. -/
theorem generateCrate_slots_timeouts :
    ∃ files, (clockContext timeouts).storageMode = .layeredBag ∧
      generateCrate (clockContext timeouts) (.forTarget .client) false = .ok files ∧
      ∃ (a : Artifacts) (newtypes : List DeclaredParameter),
        files.find? SourceModule.config.file = some (a.config.contents ++ String.join
          (newtypes.map fun d => "\n" ++ (clockContext timeouts).newtypeText d)) ∧
        { name := "timeout_1", typePath := "u32" } ∈ newtypes ∧
        { name := "timeout1", typePath := "u64" } ∉ newtypes := by
  obtain ⟨files, generated⟩ := exists_crate_clock timeouts
  obtain ⟨_, a, newtypes, _, config, written⟩ := generateCrate_slots rfl generated
  have mem : { name := "timeout1", typePath := "u64" } ∈ timeouts := by decide
  have found : (timeouts.find? fun p => Text.upperCamelCase p.name ==
      Text.upperCamelCase "timeout1") = some { name := "timeout_1", typePath := "u32" } := by
    decide
  refine ⟨files, rfl, generated, a, newtypes, config, ((written _ mem _).mpr found).1, ?_⟩
  intro second
  exact absurd (found.symm.trans ((written _ mem _).mp ⟨second, rfl⟩)) (by decide)

theorem not_forall_pairwise_key_ne :
    ¬ ∀ (parameters : List DeclaredParameter) (runtime : RuntimeConfig),
      (parameters.Pairwise fun d e => Text.snakeCase d.name ≠ Text.snakeCase e.name) →
        parameters.Pairwise fun d e =>
          FragmentKind.key (ConfigParam.declaredWrapper d runtime)
            ≠ FragmentKind.key (ConfigParam.declaredWrapper e runtime) := by
  intro own
  have same : Text.upperCamelCase "timeout_1" = Text.upperCamelCase "timeout1" := by
    decide
  have apart := own timeouts {} pairwise_snakeCase_timeouts
  simp only [timeouts, List.pairwise_cons, List.mem_singleton, forall_eq, ne_eq,
    ConfigParam.key_declaredWrapper_eq_iff] at apart
  exact apart.1 same

end Cratewright
