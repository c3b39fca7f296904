/-
What the configuration of a service asks for.

Every template of a configuration has all its holes bound, in both storage modes, so its
script records no error. Of fragments it asks only for the wrappers of parameters that are
kept in a layered bag, and for the file that token providers come from:

* `StoredParam.asks_contribute`, `TokenProvider.asks_contribute`,
  `Interceptors.asks_contribute` — what the contributors say at each section;
* `ConfigGenerator.asks_moduleScript` — a configuration asks for what its contributors ask
  for, section by section;
* `Context.withBaseBehavior_eq` — the contributors that the settings lead to.
-/
import Cratewright.Generation
import Cratewright.Proofs.Source.Scripts

namespace Cratewright

open Writer

theorem asks_documentation (docs : Option String) : Asks [documentation docs] [] := by
  cases docs with
  | none => exact asks_code _
  | some text => exact asks_docs text

/-! ### Parameters -/

namespace StoredParam

variable {p : StoredParam}

/-- The fragments of the type under which the value is kept. -/
def wrappers (p : StoredParam) : List Fragment :=
  match p.storage with
  | .ownField => []
  | .bag newtype => newtype.fragments

theorem wrappers_ownField (h : p.storage = .ownField) : p.wrappers = [] := by
  rw [wrappers, h]

theorem wrappers_bag {newtype : ItemPath Fragment} (h : p.storage = .bag newtype) :
    p.wrappers = newtype.fragments := by
  rw [wrappers, h]

theorem asks_store (p : StoredParam) : Asks p.store p.wrappers := by
  cases h : p.storage with
  | ownField =>
    rw [store, h, wrappers_ownField h]
    exact .plain ["name", "name"] (by simp [supplies_text])
      (Template.holes_of_spelled .literal (by decide)) (by simp)
  | bag newtype =>
    have bound :=
      (supplies_text p.param.name).cons "name" <| (supplies_item newtype).bound "newtype"
    rw [store, h, wrappers_bag h]
    exact .template ["name", "newtype"] bound
      (Template.holes_of_spelled .literal (by decide)) (by simp) (by simp [List.lookup_cons])

variable (known : p.param.type.fragments = [])

include known

theorem supplies_type : Supplies (.item p.param.type) [] := known ▸ supplies_item p.param.type

theorem supplies_bindings : ∀ b ∈ p.bindings, Supplies b.2 [] := by
  simp [bindings, supplies_text, supplies_type known]

theorem asks_setters : Asks p.setters p.wrappers := by
  have bound := (supplies_text p.param.name).cons "name" <| (supplies_type known).cons "ty" <|
    p.asks_store.supplies_some.bound "store"
  refine (asks_documentation _).after <| .after ?builder <| asks_blankLine.after <|
    (asks_documentation _).after ?inPlace
  case builder =>
    exact .plain ["name", "name", "ty", "name", "name"] (supplies_bindings known)
      (Template.holes_ofLines (by repeat constructor) (by decide)) (by simp [bindings])
  case inPlace =>
    exact .template ["name", "name", "ty", "store"] bound
      (Template.holes_ofLines (by repeat constructor) (by decide)) (by simp)
      (by simp [List.lookup_cons])

theorem asks_field : Asks p.field [] := by
  refine (asks_documentation _).after ?_
  split
  · exact .plain ["name", "ty"] (supplies_bindings known)
      (Template.holes_of_spelled .literal (by decide)) (by simp [bindings])
  · exact .plain ["name", "ty"] (supplies_bindings known)
      (Template.holes_of_spelled .literal (by decide)) (by simp [bindings])

theorem asks_getter (newtype : ItemPath Fragment) : Asks (p.getter newtype) newtype.fragments := by
  have bound := (supplies_text p.param.name).cons "name" <| (supplies_type known).cons "ty" <|
    (supplies_item newtype).cons "newtype" <| (supplies_text p.unwrap).bound "f"
  refine (asks_documentation _).after <|
    .template ["name", "ty", "newtype", "f"] bound ?_ (by simp) (by simp [List.lookup_cons])
  split
  · exact Template.holes_ofLines (by repeat constructor) (by decide)
  · exact Template.holes_ofLines (by repeat constructor) (by decide)

/-- The fragments that the parameter asks for at a section. -/
def asked (p : StoredParam) : ConfigSection → List Fragment
  | .functions | .builderFunctions => p.wrappers
  | _ => []

theorem asks_contribute (s : ConfigSection) : Asks ((p.contribute s).getD []) (p.asked s) := by
  cases h : p.storage with
  | ownField =>
    cases s <;> simp only [contribute, asked, h, wrappers_ownField h]
    case structFields => exact asks_field known
    case builderFields =>
      exact .plain ["name", "ty"] (supplies_bindings known)
        (Template.holes_of_spelled .literal (by decide)) (by simp [bindings])
    case builderFunctions => exact wrappers_ownField h ▸ asks_setters known
    case build =>
      exact .plain ["name", "value"] (by simp [supplies_text])
        (Template.holes_of_spelled .literal (by decide)) (by simp)
    all_goals exact asks_nil
  | bag newtype =>
    cases s <;> simp only [contribute, asked, h]
    case functions => exact wrappers_bag h ▸ asks_getter known newtype
    case builderFunctions => exact asks_setters known
    all_goals exact asks_nil

end StoredParam

/-! ### The provider of tokens -/

namespace TokenProvider

/-- The fragment that providers come from. -/
def origin (t : TokenProvider) : Fragment := Resource.idempotencyToken.fragment t.runtime

/-- How often a section of the configuration refers to where providers come from. -/
def uses : StorageMode → ConfigSection → Nat
  | .directFields, .structFields | .directFields, .functions | .directFields, .builderFields
  | .directFields, .build => 1
  | .layeredBag, .functions | .layeredBag, .build | _, .builderFunctions => 2
  | _, _ => 0

variable (t : TokenProvider)

theorem supplies_provider : Supplies (.item t.provider) [t.origin] := supplies_item t.provider

theorem bound_provider : Bound [("Provider", .item t.provider)] [("Provider", [t.origin])] :=
  t.supplies_provider.bound "Provider"

theorem asks_value : Asks [.template t.value [("Provider", .item t.provider)]]
    (List.replicate (uses t.mode .functions - 1) t.origin) := by
  cases h : t.mode with
  | directFields =>
    rw [value, h]
    exact .template [] t.bound_provider
      (Template.holes_of_spelled .literal (by decide)) (by simp) rfl
  | layeredBag =>
    rw [value, h]
    exact .template ["Provider"] t.bound_provider
      (Template.holes_of_spelled .literal (by decide)) (by simp)
      (by simp [List.lookup_cons, uses])

theorem asks_getter : Asks t.getter (List.replicate (uses t.mode .functions) t.origin) := by
  have bound := t.supplies_provider.cons "Provider" <| t.asks_value.supplies_some.bound "body"
  refine .template ["Provider", "body"] bound
    (Template.holes_ofLines (by repeat constructor) (by decide)) (by simp) ?_
  cases t.mode <;> simp [List.lookup_cons, uses, List.replicate]

theorem asks_setters : Asks t.setters [t.origin, t.origin] := by
  have bound := t.supplies_provider.cons "Provider" <| (supplies_text t.store).bound "store"
  exact .template ["Provider", "Provider", "store"] bound
    (Template.holes_ofLines (by repeat constructor) (by decide)) (by simp)
    (by simp [List.lookup_cons])

theorem asks_build : Asks t.build (List.replicate (uses t.mode .build) t.origin) := by
  have default : Supplies (.item t.defaultProvider) [t.origin] := supplies_item t.defaultProvider
  cases h : t.mode with
  | directFields =>
    rw [build, h]
    exact .template ["default_provider"] (default.bound "default_provider")
      (Template.holes_of_spelled (by repeat constructor) (by decide)) (by simp)
      (by simp [List.lookup_cons, uses])
  | layeredBag =>
    have bound := t.supplies_provider.cons "Provider" <| default.bound "default_provider"
    rw [build, h]
    exact .template ["Provider", "default_provider"] bound
      (Template.holes_ofLines (by repeat constructor) (by decide)) (by simp)
      (by simp [List.lookup_cons, uses, List.replicate])

/-- A template with the provider in its one hole. -/
theorem asks_field {text : String} (holes : Template.holes text = ["Provider"]) :
    Asks [.template text [("Provider", .item t.provider)]] [t.origin] :=
  .template ["Provider"] t.bound_provider holes (by simp) (by simp [List.lookup_cons])

theorem asks_contribute (s : ConfigSection) :
    Asks ((t.contribute s).getD []) (List.replicate (uses t.mode s) t.origin) := by
  cases s
  case functions => exact t.asks_getter
  case builderFunctions =>
    have twice : uses t.mode .builderFunctions = 2 := by cases t.mode <;> rfl
    rw [twice]
    exact t.asks_setters
  case build => exact t.asks_build
  case testDefaults receiver =>
    have never : uses t.mode (.testDefaults receiver) = 0 := by cases t.mode <;> rfl
    rw [never]
    exact .plain ["builder", "token"] (by simp [supplies_text])
      (Template.holes_of_spelled .literal (by decide)) (by simp)
  case structFields =>
    cases h : t.mode <;> simp only [contribute, h]
    · exact t.asks_field (Template.holes_of_spelled .literal (by decide))
    · exact asks_nil
  case builderFields =>
    cases h : t.mode <;> simp only [contribute, h]
    · exact t.asks_field (Template.holes_of_spelled .literal (by decide))
    · exact asks_nil
  all_goals cases t.mode <;> exact asks_nil

end TokenProvider

/-! ### Interceptors -/

namespace Interceptors

variable (i : Interceptors)

theorem supplies_bindings : ∀ b ∈ i.bindings, Supplies b.2 [] := by
  have types (item : String) : Supplies (.item (i.source.resolve item)) [] := supplies_item _
  simp [bindings, types]

theorem asks_contribute (s : ConfigSection) : Asks ((i.contribute s).getD []) [] := by
  cases s
  case structFields =>
    exact .plain ["SharedInterceptor"] i.supplies_bindings
      (Template.holes_of_spelled .literal (by decide)) (by simp [bindings])
  case functions =>
    exact .plain ["SharedInterceptor"] i.supplies_bindings
      (Template.holes_ofLines (by repeat constructor) (by decide)) (by simp [bindings])
  case builderFields =>
    exact .plain ["SharedInterceptor"] i.supplies_bindings
      (Template.holes_of_spelled .literal (by decide)) (by simp [bindings])
  case builderFunctions =>
    exact .plain
      ["Intercept", "SharedInterceptor", "SharedInterceptor", "SharedInterceptor",
        "SharedInterceptor"]
      i.supplies_bindings (Template.holes_ofLines (by repeat constructor) (by decide))
      (by simp [bindings])
  case build =>
    cases h : i.mode with
    | directFields =>
      simp only [contribute, h]
      exact asks_code _
    | layeredBag =>
      simp only [contribute, h]
      exact asks_nil
  case buildFields =>
    cases h : i.mode with
    | directFields =>
      simp only [contribute, h]
      exact asks_nil
    | layeredBag =>
      simp only [contribute, h]
      exact asks_code _
  case pluginInterceptors registrar =>
    exact .plain ["registrar"] (by simp [supplies_text])
      (Template.holes_of_spelled .literal (by decide)) (by simp)
  all_goals exact asks_nil

end Interceptors

/-! ### The configuration -/

namespace ConfigGenerator

variable (g : ConfigGenerator)

theorem supplies_bagItem (item : String) : Supplies (.item (g.bagItem item)) [] :=
  supplies_item _

theorem supplies_clientItem (item : String) : Supplies (.item (g.clientItem item)) [] :=
  supplies_item _

theorem asks_bagField {type : String}
    (holes : Template.holes ("inner: #\x7b" ++ type ++ "\x7d,") = [type]) :
    Asks (g.bagField type) [] := by
  rw [bagField]
  cases g.mode with
  | directFields => exact asks_nil
  | layeredBag => exact .plain [type] (by simp [supplies_bagItem]) holes (by simp)

/-- The sections that a configuration goes through, in order. -/
def sections (mode : StorageMode) (withPlugin : Bool) : List ConfigSection :=
  [.structDocs, .structFields, .functions, .builderFields, .builderFunctions,
    .testDefaults "self", .build] ++
  (match mode with
    | .directFields => []
    | .layeredBag => [.buildFields]) ++
  [.extras] ++
  if withPlugin then [.pluginConfig "cfg", .pluginInterceptors "_interceptors"] else []

variable {g} {asked : ConfigSection → List Fragment}
  (h : ∀ s, Asks ((g.composed s).getD []) (asked s))

include h

theorem asks_testDefaults : Asks [g.testDefaults] (asked (.testDefaults "self")) :=
  .template ["defaults"] ((h (.testDefaults "self")).supplies.bound "defaults")
    (Template.holes_ofLines (by repeat constructor) (by decide)) (by simp)
    (by simp [List.lookup_cons])

theorem asks_build : Asks [g.build] (asked .build ++
    match g.mode with
    | .directFields => []
    | .layeredBag => asked .buildFields) := by
  have build := (h .build).supplies
  cases mode : g.mode with
  | directFields =>
    simp only [ConfigGenerator.build, mode]
    exact .template ["build"] (build.bound "build")
      (Template.holes_ofLines (by repeat constructor) (by decide)) (by simp)
      (by simp [List.lookup_cons])
  | layeredBag =>
    have bound := build.cons "build" <| (h .buildFields).supplies.bound "extras"
    simp only [ConfigGenerator.build, mode]
    exact .template ["build", "extras"] bound
      (Template.holes_ofLines (by repeat constructor) (by decide)) (by simp)
      (by simp [List.lookup_cons])

theorem asks_script : Asks g.script ((sections g.mode false).flatMap asked) := by
  -- The bodies of the blocks come first, then the commands around them in their order.
  have config : Asks (g.bagField "FrozenLayer" ++ [.splice (g.composed .structFields)])
      ([] ++ asked .structFields) :=
    (g.asks_bagField (Template.holes_of_spelled (by repeat constructor)
      (by decide))).append (h _).splice
  have builder : Asks (g.bagField "CloneableLayer" ++ [.splice (g.composed .builderFields)])
      ([] ++ asked .builderFields) :=
    (g.asks_bagField (Template.holes_of_spelled (by repeat constructor)
      (by decide))).append (h _).splice
  have functions := (asks_code (Text.ofLines [
      "/// Constructs a config builder.",
      "pub fn builder() -> Builder \x7b",
      "    Builder::default()",
      "\x7d"])).after (h .functions).splice
  have builderFunctions := (asks_code (Text.ofLines [
      "/// Constructs a config builder.",
      "pub fn new() -> Self \x7b",
      "    Self::default()",
      "\x7d"])).after <| (h .builderFunctions).splice.cons <| (asks_testDefaults h).cons <|
    (asks_docs "Builds a [`Config`].").after (asks_build h)
  have asks : Asks g.script _ :=
    (asks_docs _).after <| (h .structDocs).splice.cons <| (asks_attribute _).after <|
      config.block.cons <| (asks_code _).after <| functions.block.cons <|
      (asks_docs _).after <| (asks_attribute _).after <| builder.block.cons <|
      (asks_code _).after <| builderFunctions.block.cons (h .extras).splice
  convert asks using 1
  cases g.mode <;> simp [sections]

theorem asks_pluginScript :
    Asks g.pluginScript
      (asked (.pluginConfig "cfg") ++ asked (.pluginInterceptors "_interceptors")) := by
  have bound :=
    (g.supplies_clientItem "runtime_plugin::RuntimePlugin").cons "RuntimePlugin" <|
      (g.supplies_bagItem "FrozenLayer").cons "FrozenLayer" <|
      (g.supplies_bagItem "Layer").cons "Layer" <|
      (g.supplies_clientItem "interceptors::InterceptorRegistrar").cons "InterceptorRegistrar" <|
      (h (.pluginConfig "cfg")).supplies.cons "config" <|
      (h (.pluginInterceptors "_interceptors")).supplies.bound "interceptors"
  exact .template
    ["RuntimePlugin", "FrozenLayer", "Layer", "config", "InterceptorRegistrar", "interceptors"]
    bound (Template.holes_ofLines (by repeat constructor) (by decide)) (by simp)
    (by simp [List.lookup_cons])

/-- A configuration asks for what its contributors ask for, section by section. -/
theorem asks_moduleScript (withPlugin : Bool) :
    Asks (g.moduleScript withPlugin) ((sections g.mode withPlugin).flatMap asked) := by
  cases withPlugin with
  | false => exact asks_script h
  | true =>
    have asks := (asks_script h).append (asks_blankLine.after (asks_pluginScript h))
    have sections_true : sections g.mode true = sections g.mode false ++
        [.pluginConfig "cfg", .pluginInterceptors "_interceptors"] := by
      cases g.mode <;> rfl
    have plugin : [ConfigSection.pluginConfig "cfg", .pluginInterceptors "_interceptors"].flatMap
        asked = asked (.pluginConfig "cfg") ++ asked (.pluginInterceptors "_interceptors") := by
      simp
    rw [moduleScript, sections_true, List.flatMap_append, plugin]
    exact asks

end ConfigGenerator

/-! ### The contributors that settings lead to -/

namespace ConfigParam

@[simp] theorem fragments_declaredType (d : DeclaredParameter) :
    (declaredType d).fragments = [] := by
  rw [declaredType]
  cases d.crateName <;> rfl

/-- The fragment of the type that wraps a declared parameter's. -/
def declaredWrapper (d : DeclaredParameter) (runtime : RuntimeConfig) : Fragment :=
  wrapperFragment (wrapperName d) (declaredType d) runtime

@[simp] theorem name_declaredWrapper (d : DeclaredParameter) (runtime : RuntimeConfig) :
    (declaredWrapper d runtime).name = wrapperName d :=
  rfl

theorem key_declaredWrapper (d : DeclaredParameter) (runtime : RuntimeConfig) :
    FragmentKind.key (declaredWrapper d runtime) = ⟨SourceModule.config.path, wrapperName d⟩ :=
  rfl

theorem asks_wrapperFragment (name : String) {inner : ItemPath Fragment}
    (known : inner.fragments = []) (runtime : RuntimeConfig) :
    Asks (wrapperFragment name inner runtime).body [] := by
  have type : Supplies (.item inner) [] := known ▸ supplies_item inner
  have bag (item : String) : Supplies
      (.item (((ItemPath.ofCrate runtime.smithyTypes).resolve "config_bag").resolve item)) [] :=
    supplies_item (φ := Fragment) _
  exact .plain ["newtype", "inner", "Storable", "newtype", "StoreReplace"]
    (by simp [supplies_text, type, bag])
    (Template.holes_ofLines (by repeat constructor) (by decide)) (by simp)

end ConfigParam

namespace Context

variable (ctx : Context)

/-- Where the configuration keeps a declared parameter. -/
def storageOf (d : DeclaredParameter) : Storage :=
  match ctx.storageMode with
  | .directFields => .ownField
  | .layeredBag => .bag (ConfigParam.declaredWrapper d ctx.runtime).item

/-- The declared parameters as the configuration stores them. -/
def storedParams : List StoredParam :=
  ctx.settings.codegen.parameters.map fun d =>
    ⟨ConfigParam.ofDeclared d ctx.runtime, ctx.storageOf d⟩

/-- The provider of tokens, for a service that needs one. -/
def tokenProvider : TokenProvider := ⟨ctx.storageMode, ctx.runtime⟩

def interceptors : Interceptors := ⟨ctx.storageMode, ctx.runtime⟩

/-- The contributors to the configuration. -/
def contributors (needsToken : Bool) : List ConfigCustomization :=
  (if needsToken then [ctx.tokenProvider.customization] else []) ++
  (ctx.storedParams.map StoredParam.customization ++
    if ctx.settings.codegen.includeInterceptors then [ctx.interceptors.customization] else [])

/-- The fragments that the contributors ask for at a section. -/
def askedAt (needsToken : Bool) (s : ConfigSection) : List Fragment :=
  (if needsToken then
    List.replicate (TokenProvider.uses ctx.storageMode s) ctx.tokenProvider.origin
  else []) ++
  ctx.storedParams.flatMap (·.asked s)

/-- A declared parameter can be stored in either mode. -/
theorem storedIn_ofDeclared (d : DeclaredParameter) :
    (ConfigParam.ofDeclared d ctx.runtime).storedIn ctx.storageMode
      = .ok ⟨ConfigParam.ofDeclared d ctx.runtime, ctx.storageOf d⟩ := by
  rw [storageOf]
  cases ctx.storageMode <;> rfl

theorem ofSettings_eq : ConfigGenerator.ofSettings ctx = .ok (ctx.contributors false) := by
  have stored (ds : List DeclaredParameter) :
      (ds.mapM fun d => ((ConfigParam.ofDeclared d ctx.runtime).storedIn ctx.storageMode).map
          StoredParam.customization)
        = Except.ok (ε := Error) ((ds.map fun d =>
          (⟨ConfigParam.ofDeclared d ctx.runtime, ctx.storageOf d⟩ : StoredParam)).map
            StoredParam.customization) := by
    induction ds with
    | nil => rfl
    | cons d ds ih =>
      rw [List.mapM_cons, ih, storedIn_ofDeclared]
      rfl
  rw [ConfigGenerator.ofSettings, stored]
  rfl

theorem withBaseBehavior_eq :
    ConfigGenerator.withBaseBehavior ctx (ctx.contributors false)
      = (ctx.model.needsIdempotencyToken ctx.service).map fun needsToken =>
        ConfigGenerator.new ctx (ctx.contributors needsToken) := by
  rw [ConfigGenerator.withBaseBehavior, TokenProvider.load, Resource.load_eq]
  cases ctx.model.needsIdempotencyToken ctx.service with
  | error e => rfl
  | ok needsToken => cases needsToken <;> rfl

theorem asks_contributors (needsToken : Bool) (s : ConfigSection) :
    Asks ((Customization.compose (ctx.contributors needsToken) s).getD [])
      (ctx.askedAt needsToken s) := by
  have token : Asks
      ((if needsToken then [ctx.tokenProvider.customization] else []).flatMap
        fun c => (c.contribute s).getD [])
      (if needsToken then
        List.replicate (TokenProvider.uses ctx.storageMode s) ctx.tokenProvider.origin
      else []) := by
    cases needsToken with
    | false => exact asks_nil
    | true =>
      rw [if_pos rfl, List.flatMap_singleton]
      exact ctx.tokenProvider.asks_contribute s
  have params : Asks
      ((ctx.storedParams.map StoredParam.customization).flatMap
        fun c => (c.contribute s).getD [])
      (ctx.storedParams.flatMap (·.asked s)) := by
    rw [List.flatMap_map]
    refine .flatMap fun p hp => ?_
    obtain ⟨d, _, rfl⟩ := List.mem_map.mp hp
    exact StoredParam.asks_contribute (ConfigParam.fragments_declaredType d) s
  have interceptors : Asks
      ((if ctx.settings.codegen.includeInterceptors then [ctx.interceptors.customization]
        else []).flatMap fun c => (c.contribute s).getD []) [] := by
    cases ctx.settings.codegen.includeInterceptors with
    | false => exact asks_nil
    | true =>
      rw [if_pos rfl, List.flatMap_singleton]
      exact ctx.interceptors.asks_contribute s
  apply Customization.asks_compose
  rw [contributors, List.flatMap_append, List.flatMap_append]
  have asks := token.append (params.append interceptors)
  rwa [List.append_nil] at asks

/-- The fragments that the configuration asks for. -/
def configFragments (needsToken withPlugin : Bool) : List Fragment :=
  (ConfigGenerator.sections ctx.storageMode withPlugin).flatMap (ctx.askedAt needsToken)

theorem asks_config (needsToken withPlugin : Bool) :
    Asks ((ConfigGenerator.new ctx (ctx.contributors needsToken)).moduleScript withPlugin)
      (ctx.configFragments needsToken withPlugin) := by
  have spoken : ∀ s, Asks
      (((ConfigGenerator.new ctx (ctx.contributors needsToken)).composed s).getD [])
      (ctx.askedAt needsToken s) := ctx.asks_contributors needsToken
  exact ConfigGenerator.asks_moduleScript spoken withPlugin

end Context

end Cratewright
