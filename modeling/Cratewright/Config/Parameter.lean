/-
Parameters of a configuration: a field or a place in a layered bag, a getter, and setters.

A layered bag keeps values by their types, so a parameter that is kept in one needs a type
of its own, which wraps the parameter's type.
-/
import Cratewright.Config.Section
import Cratewright.Crate.Known
import Cratewright.Settings
import Cratewright.Text.Words

namespace Cratewright

/-- A parameter of a configuration. -/
structure ConfigParam where
  /-- The name of its field and of its functions. -/
  name : String
  type : ItemPath Fragment
  /-- The type that wraps the parameter's in a layered bag. -/
  newtype : Option (ItemPath Fragment) := none
  setterDocs : Option String := none
  /-- The documentation of the getter or the field. -/
  getterDocs : Option String := none
  /-- Whether the configuration can do without a value. -/
  optional : Bool := true

namespace ConfigParam

/-- Whether a value is copied rather than cloned. -/
def isCopied (p : ConfigParam) : Bool := p.type.path == "bool"

/-- The fragment of a type in the configuration module that wraps another and can be kept in
a layered bag. -/
def wrapperFragment (name : String) (inner : ItemPath Fragment) (runtime : RuntimeConfig) :
    Fragment :=
  let bag := (ItemPath.ofCrate runtime.smithyTypes).resolve "config_bag"
  Fragment.named name .config [] [
    .template
      (Text.ofLines [
        "##[derive(Debug, Clone)]",
        "pub(crate) struct #{newtype}(pub(crate) #{inner});",
        "impl #{Storable} for #{newtype} \x7b",
        "    type Storer = #{StoreReplace}<Self>;",
        "\x7d"])
      [("newtype", .text name),
        ("inner", .item inner),
        ("Storable", .item (bag.resolve "Storable")),
        ("StoreReplace", .item (bag.resolve "StoreReplace"))]]

/-- The path of a type that wraps another. -/
def wrapper (name : String) (inner : ItemPath Fragment) (runtime : RuntimeConfig) :
    ItemPath Fragment :=
  (wrapperFragment name inner runtime).item

/-- The version asked of a crate when the settings state none. -/
def anyVersion : String := "*"

/-- A path without the pairs of colons at its start. -/
def dropRoot : List Char → List Char
  | ':' :: ':' :: rest => dropRoot rest
  | path => path

def declaredType (d : DeclaredParameter) : ItemPath Fragment :=
  match d.crateName with
  | some crateName =>
    { path := "::" ++ String.ofList (dropRoot d.typePath.toList)
      requirement := some (.crate
        (CrateDependency.new crateName (.registry (d.version.getD anyVersion)))) }
  | none => .primitive d.typePath

/-- The name of the type that wraps a declared parameter's. -/
def wrapperName (d : DeclaredParameter) : String := Text.upperCamelCase d.name ++ "Param"

/-- The parameter that the settings declare. -/
def ofDeclared (d : DeclaredParameter) (runtime : RuntimeConfig) : ConfigParam where
  name := Text.snakeCase d.name
  type := declaredType d
  newtype := some (wrapper (wrapperName d) (declaredType d) runtime)
  setterDocs := d.docs
  getterDocs := d.docs

end ConfigParam

/-- Where a configuration keeps the value of a parameter. -/
inductive Storage where
  /-- In a field of its own. -/
  | ownField
  /-- In the layered bag, under the given type. -/
  | bag (newtype : ItemPath Fragment)

/-- A parameter for which it is settled where its value is kept. -/
structure StoredParam where
  param : ConfigParam
  storage : Storage

/-- Settles where the value of a parameter is kept. The bag needs a wrapper. -/
def ConfigParam.storedIn (p : ConfigParam) (mode : StorageMode) : Except Error StoredParam :=
  match mode, p.newtype with
  | .directFields, _ => .ok ⟨p, .ownField⟩
  | .layeredBag, some newtype => .ok ⟨p, .bag newtype⟩
  | .layeredBag, none => .error (.missingNewtype p.name)

namespace StoredParam

/-- The bindings of the parameter's name and type. -/
def bindings (p : StoredParam) : List (String × Argument Fragment) :=
  [("name", .text p.param.name), ("ty", .item p.param.type)]

/-- The function that takes a value out of its wrapper. -/
def unwrap (p : StoredParam) : String :=
  if p.param.isCopied then "|ty| ty.0" else "|ty| ty.0.clone()"

/-- The statement that stores a value. -/
def store (p : StoredParam) : List (Command Fragment) :=
  match p.storage with
  | .ownField => [.template "self.#{name} = #{name};" [("name", .text p.param.name)]]
  | .bag newtype => [
    .template "self.inner.store_or_unset(#{name}.map(#{newtype}));"
      [("name", .text p.param.name), ("newtype", .item newtype)]]

/-- The setters of the builder. -/
def setters (p : StoredParam) : List (Command Fragment) := [
  documentation p.param.setterDocs,
  .template
    (Text.ofLines [
      "pub fn #{name}(mut self, #{name}: impl Into<#{ty}>) -> Self \x7b",
      "    self.set_#{name}(Some(#{name}.into()));",
      "    self",
      "\x7d"])
    p.bindings,
  .blankLine,
  documentation p.param.setterDocs,
  .template
    (Text.ofLines [
      "pub fn set_#{name}(&mut self, #{name}: Option<#{ty}>) -> &mut Self \x7b",
      "    #{store}",
      "    self",
      "\x7d"])
    (p.bindings ++ [("store", .code (some p.store))])]

/-- The field of the configuration. -/
def field (p : StoredParam) : List (Command Fragment) := [
  documentation p.param.getterDocs,
  .template
    (if p.param.optional then "pub(crate) #{name}: Option<#{ty}>,"
    else "pub(crate) #{name}: #{ty},")
    p.bindings]

/-- The function of the configuration that takes the value out of the bag. -/
def getter (p : StoredParam) (newtype : ItemPath Fragment) : List (Command Fragment) := [
  documentation p.param.getterDocs,
  .template
    (Text.ofLines
      (if p.param.optional then [
        "pub fn #{name}(&self) -> Option<#{ty}> \x7b",
        "    self.inner.load::<#{newtype}>().map(#{f})",
        "\x7d"]
      else [
        "pub fn #{name}(&self) -> #{ty} \x7b",
        "    self.inner.load::<#{newtype}>().map(#{f}).unwrap_or_default()",
        "\x7d"]))
    (p.bindings ++ [("newtype", .item newtype), ("f", .text p.unwrap)])]

/-- The initializer of the configuration's field. -/
def initializer (p : StoredParam) : List (Command Fragment) :=
  let value := "self." ++ p.param.name
  [.template "#{name}: #{value},"
    [("name", .text p.param.name),
      ("value", .text (if p.param.optional then value else value ++ ".unwrap_or_default()"))]]

/-- What the parameter says at a section. -/
def contribute (p : StoredParam) : ConfigSection → Snippet Fragment
  | .structFields =>
    match p.storage with
    | .ownField => some p.field
    | .bag _ => none
  | .functions =>
    match p.storage with
    | .ownField => none
    | .bag newtype => some (p.getter newtype)
  | .builderFields =>
    match p.storage with
    | .ownField => some [.template "#{name}: Option<#{ty}>," p.bindings]
    | .bag _ => none
  | .builderFunctions => some p.setters
  | .build =>
    match p.storage with
    | .ownField => some p.initializer
    | .bag _ => none
  | _ => none

/-- The parameter as a contributor to the configuration. -/
def customization (p : StoredParam) : ConfigCustomization where
  name := p.param.name
  contribute := p.contribute

end StoredParam

end Cratewright
