/-
Errors of the generator.

An error names its cause. `Error.message` says it in words, and `Error.kind` tells errors
of the input from errors in the wiring of a generator.
-/
import Cratewright.Json.Fault

namespace Cratewright

/-- Why no code was generated. -/
inductive Error where
  /-- None of the protocols that the service declares is supported. -/
  | unsupportedProtocol (service : ShapeId) (declared supported : List ShapeId)
  /-- A feature for development was asked of a dependency in another scope. -/
  | devOnlyFeature (dependency feature : String)
  /-- A bundled source file does not exist. -/
  | missingResource (path : String)
  /-- A text is no shape identifier. -/
  | malformedId (m : ShapeId.Malformed)
  /-- A shape is not in the model, or not of the kind its place asks for. -/
  | unknownShape (id : String)
  /-- The settings cannot be read. -/
  | settings (fault : Json.Fault)
  /-- The model cannot be read. -/
  | model (fault : Json.Fault)
  /-- A parameter without a wrapper was to be kept in a layered bag. -/
  | missingNewtype (parameter : String)
  /-- Dependencies with different keys were to be merged. -/
  | mergeKeyMismatch (left right : String)
  /-- A template has a placeholder that nothing is bound to. -/
  | unboundPlaceholder (name : String)

/-- Who can mend an error. -/
inductive Error.Kind where
  /-- The author of the model or the settings. -/
  | configuration
  /-- The author of a generator. -/
  | internal
deriving DecidableEq

namespace Error

/-- Who can mend the error. -/
def kind : Error → Kind
  | missingNewtype _ | mergeKeyMismatch .. | unboundPlaceholder _ => .internal
  | _ => .configuration

/-- Identifiers as a report lists them. -/
def idList (ids : List ShapeId) : String := ", ".intercalate (ids.map ShapeId.text)

/-- The error in words. -/
def message : Error → String
  | unsupportedProtocol service declared supported =>
    "unsupported protocol for service '" ++ service.text ++ "': service offers [" ++
      idList declared ++ "], supported protocols are [" ++ idList supported ++ "]"
  | devOnlyFeature dependency feature =>
    "the `" ++ feature ++ "` feature of '" ++ dependency ++
      "' cannot be used outside of the dev scope"
  | missingResource path => "resource '" ++ path ++ "' was missing from the bundled resources"
  | malformedId m => m.message
  | unknownShape id => "shape '" ++ id ++ "' was not found in the model"
  | settings fault => "failed to decode settings: " ++ fault.message
  | model fault => "failed to decode model: " ++ fault.message
  | missingNewtype parameter =>
    "config parameter '" ++ parameter ++ "' requires a newtype wrapper in layered-bag mode"
  | mergeKeyMismatch left right =>
    "cannot merge dependency '" ++ left ++ "' with '" ++ right ++ "': merge keys differ"
  | unboundPlaceholder name => "template placeholder `#\x7b" ++ name ++ "\x7d` was not bound"

end Error

end Cratewright
