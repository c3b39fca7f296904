/-
The names in a configuration.

The functions and fields of a configuration and its builder are contributed by many: there are
functions that every configuration has, those of the provider of tokens and of interceptors, and
each parameter brings some that are named after it. Nothing keeps these apart. Two parameters come
into each other's way if one is named like the setter of the other, and a parameter comes into the
way of the rest if it or its setter has a name that is taken:

* `ConfigCode.lines_items` — the code of a configuration, item by item;
* `Context.nodup_builderFunctions_iff` — when the functions of a builder have different names;
* `Context.configGenerator_namesApart_iff` — when everything has, in the text that is generated.
-/
import Mathlib.Data.List.Nodup
import Cratewright.Proofs.Config.StorageModes
import Cratewright.Proofs.Generation.Layout

namespace Cratewright

open Text (linesOf)

/-! ### Items -/

/-- A function of a configuration or a builder. -/
structure FunctionCode where
  /-- The documentation and the attributes. -/
  front : List (List Char)
  name : String
  /-- What follows the name in the line. -/
  signature : String
  /-- The lines behind the first. -/
  body : List (List Char)

def FunctionCode.lines (f : FunctionCode) : List (List Char) :=
  f.front ++ linesOf ["pub fn " ++ f.name ++ f.signature] ++ f.body

/-- A configuration and its builder as lists of items. -/
structure ConfigItems where
  fields : List FieldCode
  functions : List FunctionCode
  builderFields : List FieldCode
  builderFunctions : List FunctionCode

namespace ConfigItems

/-- The lines of the items, each in its structure or implementation. -/
def lines (i : ConfigItems) : List (List Char) :=
  linesOf ["/// Service config.", "#[derive(Clone)]", "pub struct Config \x7b"] ++
    i.fields.flatMap FieldCode.lines ++
  linesOf ["\x7d"] ++
  ConfigCode.debugLines "Config" ++
  linesOf ["impl Config \x7b"] ++
    i.functions.flatMap FunctionCode.lines ++
  linesOf ["\x7d"] ++
  linesOf ["/// Builder for creating a `Config`.", "#[derive(Clone, Default)]",
      "pub struct Builder \x7b"] ++
    i.builderFields.flatMap FieldCode.lines ++
  linesOf ["\x7d"] ++
  ConfigCode.debugLines "Builder" ++
  linesOf ["impl Builder \x7b"] ++
    i.builderFunctions.flatMap FunctionCode.lines ++
  linesOf ["\x7d"]

/-- Neither two functions nor two fields of one structure have the same name. -/
structure NamesApart (i : ConfigItems) : Prop where
  fields : (i.fields.map FieldCode.name).Nodup
  functions : (i.functions.map FunctionCode.name).Nodup
  builderFields : (i.builderFields.map FieldCode.name).Nodup
  builderFunctions : (i.builderFunctions.map FunctionCode.name).Nodup

end ConfigItems

def GetterCode.function (g : GetterCode) : FunctionCode where
  front := g.note.lines
  name := g.name
  signature := "(&self) -> " ++ g.type ++ " \x7b"
  body := linesOf ["self." ++ g.field ++ "." ++ g.access, "\x7d"]

theorem GetterCode.lines_function (g : GetterCode) : g.function.lines = g.lines := by
  simp [-String.reduceToList, -String.reduceAppend, FunctionCode.lines, function, lines, linesOf]

def SetterCode.function (s : SetterCode) : FunctionCode where
  front := s.note.lines
  name := s.name
  signature := (if s.inPlace then "(&mut self, " else "(mut self, ") ++ s.parameter ++ ": " ++
    s.type ++ (if s.inPlace then ") -> &mut Self \x7b" else ") -> Self \x7b")
  body := s.body.lines ++ linesOf ["self", "\x7d"]

theorem SetterCode.lines_function (s : SetterCode) : s.function.lines = s.lines := by
  simp [-String.reduceToList, -String.reduceAppend, FunctionCode.lines, function, lines,
    functionLines, linesOf]

namespace ConfigCode

variable (mode : StorageMode) (c : ConfigCode)

/-- The function of the configuration that makes a builder. -/
def builderFunction : FunctionCode where
  front := linesOf ["/// Constructs a config builder."]
  name := "builder"
  signature := "() -> Builder \x7b"
  body := linesOf ["Builder::default()", "\x7d"]

def newFunction : FunctionCode where
  front := linesOf ["/// Constructs a config builder."]
  name := "new"
  signature := "() -> Self \x7b"
  body := linesOf ["Self::default()", "\x7d"]

/-- What stands before the functions that set defaults for tests. -/
def testFront : List (List Char) :=
  linesOf ["/// Apply test defaults to the builder.",
    "#[cfg(any(feature = \"test-util\", test))]", "#[allow(unused_mut)]"]

def setDefaultsFunction : FunctionCode where
  front := testFront
  name := "set_test_defaults"
  signature := "(&mut self) -> &mut Self \x7b"
  body := c.defaults.flatMap (fun call => linesOf ["self" ++ "." ++ call ++ ";"]) ++
    linesOf ["self", "\x7d"]

def withDefaultsFunction : FunctionCode where
  front := testFront
  name := "with_test_defaults"
  signature := "(mut self) -> Self \x7b"
  body := linesOf ["self.set_test_defaults();", "self", "\x7d"]

def buildFunction : FunctionCode where
  front := linesOf ["/// Builds a [`Config`]."] ++
    match mode with
    | .directFields => []
    | .layeredBag => linesOf ["#[allow(unused_mut)]"]
  name := "build"
  signature :=
    match mode with
    | .directFields => "(self) -> Config \x7b"
    | .layeredBag => "(mut self) -> Config \x7b"
  body := c.statements.flatMap Statement.lines ++ linesOf ["Config \x7b"] ++
    c.initializers.flatMap Initializer.lines ++ linesOf ["\x7d", "\x7d"]

def items : ConfigItems where
  fields := c.fields
  functions := builderFunction :: c.getters.map GetterCode.function
  builderFields := c.builderFields
  builderFunctions := newFunction :: c.setters.map SetterCode.function ++
    [c.setDefaultsFunction, withDefaultsFunction, c.buildFunction mode]

/-- The lines of the code are those of its items. -/
theorem lines_items : (c.items mode).lines = c.lines mode := by
  have getters : (c.getters.map GetterCode.function).flatMap FunctionCode.lines =
      c.getters.flatMap GetterCode.lines := by
    rw [List.flatMap_map]
    exact List.flatMap_congr fun g _ => g.lines_function
  have setters : (c.setters.map SetterCode.function).flatMap FunctionCode.lines =
      c.setters.flatMap SetterCode.lines := by
    rw [List.flatMap_map]
    exact List.flatMap_congr fun s _ => s.lines_function
  cases mode <;>
    simp [-String.reduceToList, ConfigItems.lines, items, getters, setters, FunctionCode.lines,
      builderFunction, newFunction, testFront, setDefaultsFunction, withDefaultsFunction,
      buildFunction, lines, configLines, builderLines, defaultLines, buildLines, linesOf]

end ConfigCode

/-! ### Lists of names -/

/-- The name of the function that sets a parameter's value in place. -/
def setterName (name : String) : String := "set_" ++ name

theorem setterName_injective : Function.Injective setterName :=
  fun _ _ => (String.append_right_inj "set_").mp

/-- Which name has a given name for its setter's. -/
theorem setterName_eq_iff (p name : String) : setterName p = name ↔
    name.toList.take 4 = "set_".toList ∧ p = String.ofList (name.toList.drop 4) := by
  constructor
  · rintro rfl
    rw [setterName, String.toList_append]
    exact ⟨rfl, String.ofList_toList.symm⟩
  · rintro ⟨setter, rfl⟩
    have rest : (String.ofList (name.toList.drop 4)).toList = name.toList.drop 4 :=
      String.toList_ofList
    refine String.toList_inj.mp ?_
    rw [setterName, String.toList_append, rest, ← setter, List.take_append_drop]

/-- Names between others are all different if they are so among themselves, and none of them is
one of the others. -/
theorem nodup_between_iff {front names back : List String} (h : (front ++ back).Nodup) :
    (front ++ names ++ back).Nodup ↔ names.Nodup ∧ ∀ n ∈ names, n ∉ front ++ back := by
  have moved : (front ++ names ++ back).Perm (names ++ (front ++ back)) := by
    rw [List.append_assoc]
    exact List.perm_append_comm_assoc front names back
  rw [moved.nodup_iff, List.nodup_append]
  constructor
  · rintro ⟨nodup, _, apart⟩
    exact ⟨nodup, fun n hn taken => apart n hn n taken rfl⟩
  · rintro ⟨nodup, free⟩
    exact ⟨nodup, h, fun n hn m hm same => free n hn (same ▸ hm)⟩

/-- The names of parameters, each with its setter's. -/
def withSetters (names : List String) : List String := names.flatMap fun p => [p, setterName p]

theorem mem_withSetters {names : List String} {n : String} :
    n ∈ withSetters names ↔ ∃ p ∈ names, n = p ∨ n = setterName p := by
  simp [withSetters]

theorem nodup_withSetters_iff (names : List String) :
    (withSetters names).Nodup ↔
      names.Nodup ∧ ∀ p ∈ names, ∀ q ∈ names, p ≠ setterName q := by
  have moved : (names ++ names.map setterName).Perm (withSetters names) := by
    have both := List.flatMap_append_perm names (fun p => [p]) fun p => [setterName p]
    rwa [List.flatMap_singleton', ← List.map_eq_flatMap] at both
  rw [← moved.nodup_iff, List.nodup_append, List.nodup_map_iff setterName_injective]
  constructor
  · rintro ⟨nodup, _, apart⟩
    exact ⟨nodup, fun p hp q hq => apart p hp _ (List.mem_map_of_mem hq)⟩
  · rintro ⟨nodup, apart⟩
    refine ⟨nodup, nodup, fun p hp n hn => ?_⟩
    obtain ⟨q, hq, rfl⟩ := List.mem_map.mp hn
    exact apart p hp q hq

/-! ### Names that are taken -/

namespace ConfigNames

variable (mode : StorageMode) (token interceptors : Bool)

/-- The functions of the configuration before the parameters'. -/
def firstFunctions : List String :=
  "builder" :: if token then ["idempotency_token_provider"] else []

/-- The functions of the configuration after the parameters'. -/
def lastFunctions : List String := if interceptors then ["interceptors"] else []

/-- The functions of the builder before the parameters'. -/
def firstSetters : List String :=
  "new" ::
    if token then ["idempotency_token_provider", "set_idempotency_token_provider"] else []

/-- The functions of the builder after the parameters'. -/
def lastSetters : List String :=
  (if interceptors then ["interceptor", "push_interceptor", "set_interceptors"] else []) ++
    ["set_test_defaults", "with_test_defaults", "build"]

/-- The fields before the parameters'. -/
def firstFields : List String :=
  match mode with
  | .directFields => if token then ["idempotency_token_provider"] else []
  | .layeredBag => ["inner"]

/-- The fields after the parameters'. -/
def lastFields : List String := if interceptors then ["interceptors"] else []

/-- The names that no parameter can have beside the rest. -/
def taken : List String :=
  ["new", "build", "set_test_defaults", "with_test_defaults", "test_defaults"] ++
  (match mode with
    | .directFields => []
    | .layeredBag => ["builder"]) ++
  (if token then ["idempotency_token_provider", "set_idempotency_token_provider"] else []) ++
  if interceptors then ["interceptor", "interceptors", "push_interceptor", "set_interceptors"]
  else []

theorem nodup_functions : (firstFunctions token ++ lastFunctions interceptors).Nodup := by
  cases token <;> cases interceptors <;> decide

theorem nodup_setters : (firstSetters token ++ lastSetters interceptors).Nodup := by
  cases token <;> cases interceptors <;> decide

theorem nodup_fields : (firstFields mode token ++ lastFields interceptors).Nodup := by
  cases mode <;> cases token <;> cases interceptors <;> decide

theorem mem_taken_of_mem_functions : ∀ n ∈ firstFunctions token ++ lastFunctions interceptors,
    n ∈ taken .layeredBag token interceptors := by
  cases token <;> cases interceptors <;> decide

theorem mem_taken_of_mem_fields : ∀ n ∈ firstFields .directFields token ++ lastFields interceptors,
    n ∈ taken .directFields token interceptors := by
  cases token <;> cases interceptors <;> decide

/-- A name is taken if it, or its setter's, is that of another function. -/
theorem mem_taken_iff (p : String) : p ∈ taken mode token interceptors ↔
    (p ∈ firstSetters token ++ lastSetters interceptors ∨
      setterName p ∈ firstSetters token ++ lastSetters interceptors) ∨
    mode = .layeredBag ∧ p = "builder" := by
  cases mode <;> cases token <;> cases interceptors <;>
    simp [taken, firstSetters, lastSetters, setterName_eq_iff] <;> grind

end ConfigNames

/-! ### Contributions -/

/-- What a customization contributes to the one structure it contributes to the other. -/
theorem BuiltIn.builderFieldNames_code {mode : StorageMode} (b : BuiltIn mode) :
    b.code.builderFieldNames = b.code.fieldNames := by
  cases b with
  | parameter p s h =>
    rw [BuiltIn.code, StoredParam.code]
    cases s.storage <;> rfl
  | tokenProvider runtime t h =>
    rw [BuiltIn.code, TokenProvider.code]
    cases t.mode <;> rfl
  | interceptors runtime => rfl

theorem ConfigGenerator.names_bagFieldCode (g : ConfigGenerator) (type : String) :
    (g.bagFieldCode type).map FieldCode.name = ConfigCode.bagNames g.mode := by
  rw [bagFieldCode]
  cases g.mode <;> rfl

theorem ConfigGenerator.builderFieldNames_codeOf (mode : StorageMode) (runtime : RuntimeConfig)
    (builtIns : List (BuiltIn mode)) : (codeOf mode runtime builtIns).builderFieldNames =
      (codeOf mode runtime builtIns).fieldNames := by
  rw [ConfigCode.builderFieldNames, ConfigCode.fieldNames, codeOf, complete, List.map_append,
    List.map_append, names_bagFieldCode, names_bagFieldCode, ConfigCode.join, List.map_flatMap,
    List.map_flatMap, List.flatMap_map, List.flatMap_map]
  exact congrArg _ (List.flatMap_congr fun b _ => b.builderFieldNames_code)

namespace Context

variable (ctx : Context) (needsToken : Bool)

/-- The names of the declared parameters' fields and functions. -/
def paramNames : List String :=
  ctx.settings.codegen.parameters.map fun d => Text.snakeCase d.name

/-- The built-in customizations that contribute to the configuration. -/
def builtIns : List (BuiltIn ctx.storageMode) :=
  (if needsToken then [.tokenProvider ctx.runtime ctx.tokenProvider (ConfigPart.load_eq ..)]
    else []) ++
  (ctx.settings.codegen.parameters.map
    (fun d => BuiltIn.parameter _ _ (ctx.storedIn_ofDeclared d)) ++
    if ctx.settings.codegen.includeInterceptors then [.interceptors ctx.runtime] else [])

theorem map_customization_builtIns :
    (ctx.builtIns needsToken).map BuiltIn.customization = ctx.contributors needsToken := by
  rw [builtIns, contributors, List.map_append, List.map_append, storedParams, List.map_map,
    List.map_map]
  cases needsToken <;> cases ctx.settings.codegen.includeInterceptors <;> rfl

theorem new_contributors : ConfigGenerator.new ctx (ctx.contributors needsToken) =
    ConfigGenerator.ofBuiltIns ctx.storageMode ctx.runtime (ctx.builtIns needsToken) := by
  rw [ConfigGenerator.ofBuiltIns, map_customization_builtIns]
  rfl

/-- The items of the configuration and its builder. -/
def configItems : ConfigItems :=
  (ConfigGenerator.codeOf ctx.storageMode ctx.runtime (ctx.builtIns needsToken)).items
    ctx.storageMode

/-- The names that the customizations contribute to one part of the code. -/
theorem names_builtIns {α : Type} (part : ConfigCode → List α) (name : α → String) :
    (((ctx.builtIns needsToken).map BuiltIn.code).flatMap part).map name =
      (if needsToken then (part ctx.tokenProvider.code).map name else []) ++
      ctx.storedParams.flatMap (fun s => (part s.code).map name) ++
      if ctx.settings.codegen.includeInterceptors then (part ctx.interceptors.code).map name
      else [] := by
  rw [builtIns, storedParams]
  cases needsToken <;> cases ctx.settings.codegen.includeInterceptors <;>
    simp [BuiltIn.code, interceptors, List.flatMap_map, List.map_flatMap]

/-- The names of the fields, which are the same in the configuration and in its builder. -/
def fieldNames : List String :=
  ConfigNames.firstFields ctx.storageMode needsToken ++
    (match ctx.storageMode with
      | .directFields => ctx.paramNames
      | .layeredBag => []) ++
    ConfigNames.lastFields ctx.settings.codegen.includeInterceptors

theorem names_functions : (ctx.configItems needsToken).functions.map FunctionCode.name =
    ConfigNames.firstFunctions needsToken ++
      (match ctx.storageMode with
        | .directFields => []
        | .layeredBag => ctx.paramNames) ++
      ConfigNames.lastFunctions ctx.settings.codegen.includeInterceptors := by
  have params : ctx.storedParams.flatMap (fun s => s.code.getters.map GetterCode.name) =
      match ctx.storageMode with
        | .directFields => []
        | .layeredBag => ctx.paramNames := by
    rw [storedParams, List.flatMap_map]
    cases mode : ctx.storageMode <;>
      simp [storageOf, mode, StoredParam.code, StoredParam.getterCode, paramNames,
        ConfigParam.ofDeclared, List.map_eq_flatMap]
  have token : ctx.tokenProvider.code.getters.map GetterCode.name =
      ["idempotency_token_provider"] := by
    rw [TokenProvider.code]
    cases ctx.tokenProvider.mode <;> rfl
  have contributed := ctx.names_builtIns needsToken ConfigCode.getters GetterCode.name
  rw [params, token] at contributed
  show "builder" :: (List.map GetterCode.function _).map FunctionCode.name = _
  rw [List.map_map]
  show "builder" :: (((ctx.builtIns needsToken).map BuiltIn.code).flatMap
    ConfigCode.getters).map GetterCode.name = _
  rw [contributed]
  rfl

theorem names_builderFunctions :
    (ctx.configItems needsToken).builderFunctions.map FunctionCode.name =
      ConfigNames.firstSetters needsToken ++ withSetters ctx.paramNames ++
        ConfigNames.lastSetters ctx.settings.codegen.includeInterceptors := by
  have params : ctx.storedParams.flatMap (fun s => s.code.setters.map SetterCode.name) =
      withSetters ctx.paramNames := by
    rw [storedParams, List.flatMap_map, withSetters, paramNames, List.flatMap_map]
    cases mode : ctx.storageMode <;>
      simp [storageOf, mode, StoredParam.code, StoredParam.builderSetter,
        StoredParam.inPlaceSetter, ConfigParam.ofDeclared, setterName]
  have token : ctx.tokenProvider.code.setters.map SetterCode.name =
      ["idempotency_token_provider", "set_idempotency_token_provider"] := by
    rw [TokenProvider.code]
    cases ctx.tokenProvider.mode <;> rfl
  have contributed := ctx.names_builtIns needsToken ConfigCode.setters SetterCode.name
  rw [params, token] at contributed
  show "new" :: (List.map SetterCode.function _ ++ [_, _, _]).map FunctionCode.name = _
  rw [List.map_append, List.map_map]
  show "new" :: ((((ctx.builtIns needsToken).map BuiltIn.code).flatMap
    ConfigCode.setters).map SetterCode.name ++ _) = _
  rw [contributed, List.append_assoc]
  rfl

theorem names_fields :
    (ctx.configItems needsToken).fields.map FieldCode.name = ctx.fieldNames needsToken := by
  have params : ctx.storedParams.flatMap (fun s => s.code.fields.map FieldCode.name) =
      match ctx.storageMode with
        | .directFields => ctx.paramNames
        | .layeredBag => [] := by
    rw [storedParams, List.flatMap_map]
    cases mode : ctx.storageMode <;>
      simp [storageOf, mode, StoredParam.code, StoredParam.fieldCode, paramNames,
        ConfigParam.ofDeclared, List.map_eq_flatMap]
  have token : ctx.tokenProvider.code.fields.map FieldCode.name =
      match ctx.storageMode with
        | .directFields => ["idempotency_token_provider"]
        | .layeredBag => [] := by
    rw [TokenProvider.code, tokenProvider]
    cases ctx.storageMode <;> rfl
  have contributed := ctx.names_builtIns needsToken ConfigCode.fields FieldCode.name
  rw [params, token] at contributed
  refine List.map_append.trans ?_
  rw [ConfigGenerator.names_bagFieldCode]
  refine (congrArg (_ ++ ·) contributed).trans ?_
  rw [fieldNames, ConfigNames.firstFields.eq_def, ConfigNames.lastFields]
  show ConfigCode.bagNames ctx.storageMode ++ _ = _
  cases ctx.storageMode <;> cases needsToken <;> simp [ConfigCode.bagNames] <;> rfl

theorem names_builderFields :
    (ctx.configItems needsToken).builderFields.map FieldCode.name = ctx.fieldNames needsToken :=
  (ConfigGenerator.builderFieldNames_codeOf ..).trans (ctx.names_fields needsToken)

/-! ### Different names -/

theorem nodup_functions_iff :
    ((ctx.configItems needsToken).functions.map FunctionCode.name).Nodup ↔
      (ctx.storageMode = .layeredBag → ctx.paramNames.Nodup ∧ ∀ p ∈ ctx.paramNames,
        p ∉ ConfigNames.firstFunctions needsToken ++
          ConfigNames.lastFunctions ctx.settings.codegen.includeInterceptors) := by
  rw [names_functions, nodup_between_iff (ConfigNames.nodup_functions ..)]
  cases ctx.storageMode <;> simp

theorem nodup_fieldNames_iff :
    (ctx.fieldNames needsToken).Nodup ↔
      (ctx.storageMode = .directFields → ctx.paramNames.Nodup ∧ ∀ p ∈ ctx.paramNames,
        p ∉ ConfigNames.firstFields .directFields needsToken ++
          ConfigNames.lastFields ctx.settings.codegen.includeInterceptors) := by
  rw [fieldNames, nodup_between_iff (ConfigNames.nodup_fields ..)]
  cases ctx.storageMode <;> simp

theorem nodup_builderFunctions_iff :
    ((ctx.configItems needsToken).builderFunctions.map FunctionCode.name).Nodup ↔
      (ctx.paramNames.Nodup ∧ ∀ p ∈ ctx.paramNames, ∀ q ∈ ctx.paramNames, p ≠ setterName q) ∧
        ∀ p ∈ ctx.paramNames, ∀ n, n = p ∨ n = setterName p →
          n ∉ ConfigNames.firstSetters needsToken ++
            ConfigNames.lastSetters ctx.settings.codegen.includeInterceptors := by
  rw [names_builderFunctions, nodup_between_iff (ConfigNames.nodup_setters ..),
    nodup_withSetters_iff]
  refine and_congr_right fun _ => ⟨fun h p hp n hn => h n (mem_withSetters.mpr ⟨p, hp, hn⟩),
    fun h n hn => ?_⟩
  obtain ⟨p, hp, hn⟩ := mem_withSetters.mp hn
  exact h p hp n hn

/-- The names that parameters cannot have beside everything else in the configuration. -/
def takenNames : List String :=
  ConfigNames.taken ctx.storageMode needsToken ctx.settings.codegen.includeInterceptors

/-- Everything has different names if the parameters do, none is named like the setter of one,
and none has a name that is taken. -/
theorem namesApart_configItems_iff : (ctx.configItems needsToken).NamesApart ↔
    ctx.paramNames.Nodup ∧ (∀ p ∈ ctx.paramNames, ∀ q ∈ ctx.paramNames, p ≠ "set_" ++ q) ∧
      ∀ p ∈ ctx.paramNames, p ∉ ctx.takenNames needsToken := by
  constructor
  · rintro ⟨_, functions, _, setters⟩
    obtain ⟨⟨nodup, apart⟩, free⟩ := (ctx.nodup_builderFunctions_iff needsToken).mp setters
    refine ⟨nodup, apart, fun p hp taken => ?_⟩
    rcases (ConfigNames.mem_taken_iff _ _ _ p).mp taken with (own | setter) | ⟨layered, rfl⟩
    · exact free p hp p (.inl rfl) own
    · exact free p hp _ (.inr rfl) setter
    · exact (((ctx.nodup_functions_iff needsToken).mp functions layered).2 _ hp)
        (List.mem_append_left _ (List.mem_cons_self ..))
  · rintro ⟨nodup, apart, free⟩
    have fields : (ctx.fieldNames needsToken).Nodup := by
      refine (ctx.nodup_fieldNames_iff needsToken).mpr fun direct => ⟨nodup, fun p hp taken => ?_⟩
      refine free p hp ?_
      rw [takenNames, direct]
      exact ConfigNames.mem_taken_of_mem_fields _ _ p taken
    refine ⟨names_fields .. ▸ fields, ?functions, names_builderFields .. ▸ fields, ?setters⟩
    case functions =>
      refine (ctx.nodup_functions_iff needsToken).mpr fun layered => ⟨nodup, fun p hp taken => ?_⟩
      refine free p hp ?_
      rw [takenNames, layered]
      exact ConfigNames.mem_taken_of_mem_functions _ _ p taken
    case setters =>
      refine (ctx.nodup_builderFunctions_iff needsToken).mpr
        ⟨⟨nodup, apart⟩, fun p hp n hn taken => ?_⟩
      refine free p hp ((ConfigNames.mem_taken_iff ..).mpr (.inl ?_))
      rcases hn with rfl | rfl
      · exact .inl taken
      · exact .inr taken

/-- The generator of a service's configuration, with the contributors that its settings ask
for. -/
def configGenerator : Except Error ConfigGenerator :=
  ConfigGenerator.ofSettings ctx >>= ConfigGenerator.withBaseBehavior ctx

theorem configGenerator_eq : ctx.configGenerator =
    (ctx.model.needsIdempotencyToken ctx.service).map fun needsToken =>
      ConfigGenerator.ofBuiltIns ctx.storageMode ctx.runtime (ctx.builtIns needsToken) := by
  rw [configGenerator, ofSettings_eq]
  refine ctx.withBaseBehavior_eq.trans ?_
  simp only [new_contributors]

/-- **Names in a configuration.**  Whether a service needs tokens decides, beside its settings,
on the items of its configuration and builder. In the text that is generated, functions of one
implementation and fields of one structure have different names if the parameters do, none is
named like the setter of one, and none has a name that is taken. -/
theorem configGenerator_namesApart_iff :
    match ctx.model.needsIdempotencyToken ctx.service with
    | .error e => ctx.configGenerator = .error e
    | .ok needsToken => ∃ g out, ctx.configGenerator = .ok g ∧ render g.script = .ok out ∧
        Text.bareLines out.contents.toList = (ctx.configItems needsToken).lines ∧
        ((ctx.configItems needsToken).NamesApart ↔
          ctx.paramNames.Nodup ∧
          (∀ p ∈ ctx.paramNames, ∀ q ∈ ctx.paramNames, p ≠ "set_" ++ q) ∧
          ∀ p ∈ ctx.paramNames, p ∉ ctx.takenNames needsToken) := by
  have made := ctx.configGenerator_eq
  cases needs : ctx.model.needsIdempotencyToken ctx.service with
  | error e =>
    rw [needs] at made
    exact made
  | ok needsToken =>
    rw [needs] at made
    obtain ⟨out, rendered, lines, _⟩ :=
      ConfigGenerator.render_agrees ctx.storageMode ctx.runtime (ctx.builtIns needsToken)
    refine ⟨_, out, made, rendered, ?_, ctx.namesApart_configItems_iff needsToken⟩
    rw [lines, configItems, ConfigCode.lines_items]

end Context

/-- Two parameters with names of their own, of which the one is named like the setter of the
other. -/
def setterNamesake : List DeclaredParameter :=
  [{ name := "timeout", typePath := "u32" }, { name := "set_timeout", typePath := "u32" }]

theorem not_forall_namesApart : ¬ ∀ (ctx : Context) (needsToken : Bool),
    ctx.model.needsIdempotencyToken ctx.service = .ok needsToken → ctx.paramNames.Nodup →
      (ctx.configItems needsToken).NamesApart := by
  intro all
  have names : (clockContext setterNamesake).paramNames = ["timeout", "set_timeout"] := by decide
  have needs : clockModel.needsIdempotencyToken clock = .ok false :=
    Model.needsIdempotencyToken_of_no_operations operations_clock
  have apart := all (clockContext setterNamesake) false needs (names ▸ by decide)
  rw [Context.namesApart_configItems_iff, names] at apart
  exact apart.2.1 "set_timeout" (by simp) "timeout" (by simp) rfl

end Cratewright
