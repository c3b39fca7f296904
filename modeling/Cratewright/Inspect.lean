/-
Descriptions of values for developers.

A record is shown with its name and its fields, and two dots where fields are left out.
-/
import Cratewright.Protocol.Loader

namespace Cratewright.Inspect

/-! ### Notation -/

/-- Items between commas. -/
def commas (items : List String) : String := ", ".intercalate items

def list (items : List String) : String := "[" ++ commas items ++ "]"

def set (items : List String) : String := "\x7b" ++ commas items ++ "\x7d"

/-- A truth value. -/
def flag (b : Bool) : String := if b then "true" else "false"

/-- A value that may be missing. -/
def optional : Option String → String
  | some s => "Some(" ++ s ++ ")"
  | none => "None"

/-- A record with all its fields. -/
def record (name : String) (fields : List (String × String)) : String :=
  name ++ " \x7b " ++ commas (fields.map fun f => f.1 ++ ": " ++ f.2) ++ " \x7d"

/-- A record of which only some fields are shown. -/
def openRecord (name : String) (fields : List (String × String)) : String :=
  name ++ " \x7b " ++ commas (fields.map (fun f => f.1 ++ ": " ++ f.2) ++ [".."]) ++ " \x7d"

/-! ### Values -/

/-- An identifier. -/
def id (i : ShapeId) : String :=
  record "ShapeId" [
    ("namespace", Text.quoted i.space),
    ("name", Text.quoted i.name),
    ("member", optional (i.member.map Text.quoted))]

/-- The place of a crate. -/
def location : Location → String
  | .registry version => record "CratesIo" [("version", Text.quoted version)]
  | .directory base version =>
    record "Local" [
      ("base_path", Text.quoted base),
      ("version", optional (version.map Text.quoted))]

/-- A dependency on a crate. -/
def crate (d : CrateDependency) : String :=
  record "CargoDependency" [
    ("name", Text.quoted d.name),
    ("location", location d.location),
    ("scope", d.scope.label),
    ("optional", flag d.optional),
    ("features", set (d.features.toList.map Text.quoted)),
    ("default_features", flag d.defaultFeatures),
    ("rust_name", Text.quoted d.importName)]

mutual

/-- A fragment, with what it needs besides what its script asks for. -/
def fragment : Fragment → String
  | ⟨name, home, _, extra, _⟩ =>
    openRecord "InlineDependency" [
      ("key", Text.quoted (FragmentKey.text ⟨home.path, name⟩)),
      ("extra_dependencies", list (requirements extra))]

def requirement : Requirement Fragment → String
  | .crate d => "Cargo(" ++ crate d ++ ")"
  | .fragment f => "Inline(" ++ fragment f ++ ")"

def requirements : List (Requirement Fragment) → List String
  | [] => []
  | r :: rest => requirement r :: requirements rest

end

/-- A snippet, of which only is shown whether it says nothing. -/
def snippet (s : Snippet Fragment) : String := record "Writable" [("empty", flag s.isNone)]

def context (ctx : Context) : String :=
  openRecord "CodegenContext" [
    ("service", id ctx.service),
    ("module_name", Text.quoted ctx.settings.moduleName)]

/-- A loader, by the protocols that it supports. -/
def loader (l : ProtocolLoader) : String :=
  record "ProtocolLoader" [("protocols", list (l.supported.map id))]

/-- What is supported. -/
def support (s : Support) : String :=
  record "ProtocolSupport" [
    ("request_serialization", flag s.requestSerialization),
    ("request_deserialization", flag s.requestDeserialization),
    ("response_serialization", flag s.responseSerialization),
    ("response_deserialization", flag s.responseDeserialization),
    ("error_serialization", flag s.errorSerialization),
    ("error_deserialization", flag s.errorDeserialization)]

/-- A generator of a protocol module. -/
def generator (g : ProtocolGenerator) : String :=
  openRecord "ProtocolGenerator" [
    ("protocol", Text.quoted g.protocol.id.text),
    ("support", support g.support),
    ("customizations", list ((Customization.names g.customizations).map Text.quoted))]

end Cratewright.Inspect
