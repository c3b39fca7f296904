/-
The sections of a service's configuration.
-/
import Cratewright.Source.Fragment

namespace Cratewright

/-- A place of the configuration module that can be customized. -/
inductive ConfigSection where
  /-- Documentation of the configuration. -/
  | structDocs
  /-- Fields of the configuration. -/
  | structFields
  /-- Functions of the configuration. -/
  | functions
  | builderFields
  | builderFunctions
  /-- What building does: field initializers, or statements before them. -/
  | build
  /-- Field initializers that stand beside a layered bag. -/
  | buildFields
  /-- Statements that set defaults for tests, where `builder` refers to the builder. -/
  | testDefaults (builder : String)
  /-- Statements that fill the layer of a runtime plugin. -/
  | pluginConfig (layer : String)
  /-- Statements that register the interceptors of a runtime plugin. -/
  | pluginInterceptors (registrar : String)
  /-- Items after the builder. -/
  | extras
deriving DecidableEq

def ConfigSection.name : ConfigSection → String
  | structDocs => "ConfigStructAdditionalDocs"
  | structFields => "ConfigStruct"
  | functions => "ConfigImpl"
  | builderFields => "BuilderStruct"
  | builderFunctions => "BuilderImpl"
  | build => "BuilderBuild"
  | buildFields => "BuilderBuildExtras"
  | testDefaults _ => "DefaultForTests"
  | pluginConfig _ => "RuntimePluginConfig"
  | pluginInterceptors _ => "RuntimePluginInterceptors"
  | extras => "Extras"

/-- A contributor to the configuration. -/
abbrev ConfigCustomization := Customization ConfigSection

/-- The documentation of an item, or the permission to have none. -/
def documentation (docs : Option String) : Command Fragment :=
  match docs with
  | some text => .docs text
  | none => .code "#[allow(missing_docs)] // documentation missing in model"

end Cratewright
