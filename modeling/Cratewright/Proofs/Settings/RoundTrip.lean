/-
Settings are read as they were written.

All settings can be written, and are then read again, whatever their texts hold:

* `RuntimeConfig.read_toJson`, `DeclaredParameter.read_toJson`, `CodegenConfig.read_toJson` — the
  records that settings are made of;
* `Settings.parse_toJson` — whole documents.
-/
import Cratewright.Proofs.Json.Records
import Cratewright.Settings.Format

namespace Cratewright

open Json Layout

/-! ### Fields -/

theorem readOption_print (o : Option String) (rest : List Char) :
    readOption readString ((optionalText o).print ++ rest) = .ok (o, rest) := by
  cases o with
  | none => exact readOption_null readString rest
  | some s => exact readOption_text

/-- A part that is read as it was printed is set. -/
theorem reads_setRead {σ α : Type} {l : Layout σ (FromText σ)} {name : String} {required : Bool}
    {set : σ → α → σ} {read : Nat → List Char → Except Fault (α × List Char)} {depth : Nat}
    {v : Json} {a : α} (known : l.field? name = some ⟨name, required, setRead set read⟩)
    (h : ∀ rest, Closes rest → read depth (v.print ++ rest) = .ok (a, rest)) :
    l.Reads depth (.of name v set a) := by
  refine ⟨_, known, fun acc rest closed => ?_⟩
  show (read depth (v.print ++ rest)).map _ = _
  rw [h rest closed]
  rfl

/-! ### Runtime configuration -/

namespace RuntimeConfig

/-- The fields of a runtime configuration, as they are written. -/
def entries (c : RuntimeConfig) : List (Entry RuntimeConfig) := [
  .of "cratePrefix" (.text c.cratePrefix) (fun c v => { c with cratePrefix := v }) c.cratePrefix,
  .of "relativePath" (optionalText c.relativePath) (fun c v => { c with relativePath := v })
    c.relativePath,
  .of "versions" (.object (c.versions.entries.map fun e => (e.1, .text e.2)))
    (fun c v => { c with versions := v }) c.versions]

theorem read_toJson (c : RuntimeConfig) (depth : Nat) (rest : List Char) :
    layout.read (depth + 2) (c.toJson.print ++ rest) = .ok (c, rest) := by
  have reads : ∀ x ∈ c.entries, layout.Reads (depth + 1) x := by
    simp only [entries, List.forall_mem_cons]
    refine ⟨reads_setRead rfl ?_, reads_setRead rfl ?_, reads_setRead rfl ?_, by simp⟩
    · exact fun rest _ => readString_print ..
    · exact fun rest _ => readOption_print ..
    · exact fun rest _ => readMap_print id .text (fun _ _ => rfl) fun _ _ _ _ => readString_print ..
  have record : layout.IsRecord c.entries := ⟨by simp [entries], by simp [layout]⟩
  exact read_print reads record rest

end RuntimeConfig

/-! ### Declared parameters -/

namespace DeclaredParameter

/-- The fields of a declared parameter, as they are written. -/
def entries (p : DeclaredParameter) : List (Entry DeclaredParameter) := [
  .of "name" (.text p.name) (fun p v => { p with name := v }) p.name,
  .of "type" (.text p.typePath) (fun p v => { p with typePath := v }) p.typePath,
  .of "crate" (optionalText p.crateName) (fun p v => { p with crateName := v }) p.crateName,
  .of "version" (optionalText p.version) (fun p v => { p with version := v }) p.version,
  .of "docs" (optionalText p.docs) (fun p v => { p with docs := v }) p.docs]

theorem read_toJson (p : DeclaredParameter) (depth : Nat) (rest : List Char) :
    layout.read (depth + 1) (p.toJson.print ++ rest) = .ok (p, rest) := by
  have reads : ∀ x ∈ p.entries, layout.Reads depth x := by
    simp only [entries, List.forall_mem_cons]
    refine ⟨reads_setRead rfl ?_, reads_setRead rfl ?_, reads_setRead rfl ?_, reads_setRead rfl ?_,
      reads_setRead rfl ?_, by simp⟩
    · exact fun rest _ => readString_print ..
    · exact fun rest _ => readString_print ..
    all_goals exact fun rest _ => readOption_print ..
  have record : layout.IsRecord p.entries := ⟨by simp [entries], by simp [layout, entries]⟩
  exact read_print reads record rest

end DeclaredParameter

/-! ### Generator switches -/

theorem StorageMode.variant?_name (m : StorageMode) :
    variant? StorageMode.names m.name = .ok m := by
  cases m <;> rfl

theorem Target.variant?_name (t : Target) : variant? Target.names t.name = .ok t := by
  cases t <;> rfl

namespace CodegenConfig

/-- The fields of the generator switches, as they are written. -/
def entries (c : CodegenConfig) : List (Entry CodegenConfig) := [
  .of "storageMode" (.text c.storageMode.name) (fun c v => { c with storageMode := v })
    c.storageMode,
  .of "includeInterceptors" (.flag c.includeInterceptors)
    (fun c v => { c with includeInterceptors := v }) c.includeInterceptors,
  .of "configParams" (.list (c.parameters.map DeclaredParameter.toJson))
    (fun c v => { c with parameters := v }) c.parameters]

theorem read_toJson (c : CodegenConfig) (depth : Nat) (rest : List Char) :
    layout.read (depth + 3) (c.toJson.print ++ rest) = .ok (c, rest) := by
  have starts : ∀ p ∈ c.parameters, Starts p.toJson.print := fun p _ => starts_print_object _
  have reads : ∀ x ∈ c.entries, layout.Reads (depth + 2) x := by
    simp only [entries, List.forall_mem_cons]
    refine ⟨reads_setRead rfl ?_, reads_setRead rfl ?_, reads_setRead rfl ?_, by simp⟩
    · exact fun rest _ => readVariant_print c.storageMode.variant?_name (depth + 2)
    · exact fun rest _ => readFlag_print ..
    · exact fun rest _ => readList_print starts fun p _ rest _ => p.read_toJson depth rest
  have record : layout.IsRecord c.entries := ⟨by simp [entries], by simp [layout]⟩
  exact read_print reads record rest

end CodegenConfig

/-! ### Settings -/

namespace Settings

/-- The fields of settings, as they are written. -/
def entries (s : Settings) : List (Entry Settings) := [
  .of "moduleName" (.text s.moduleName) (fun s v => { s with moduleName := v }) s.moduleName,
  .of "moduleVersion" (.text s.moduleVersion) (fun s v => { s with moduleVersion := v })
    s.moduleVersion,
  .of "service" (optionalText s.service) (fun s v => { s with service := v }) s.service,
  .of "target" (.text s.target.name) (fun s v => { s with target := v }) s.target,
  .of "runtimeConfig" s.runtime.toJson (fun s v => { s with runtime := v }) s.runtime,
  .of "codegen" s.codegen.toJson (fun s v => { s with codegen := v }) s.codegen]

theorem read_toJson (s : Settings) (depth : Nat) (rest : List Char) :
    layout.read (depth + 4) (s.toJson.print ++ rest) = .ok (s, rest) := by
  have reads : ∀ x ∈ s.entries, layout.Reads (depth + 3) x := by
    simp only [entries, List.forall_mem_cons]
    refine ⟨reads_setRead rfl ?_, reads_setRead rfl ?_, reads_setRead rfl ?_, reads_setRead rfl ?_,
      reads_setRead rfl ?_, reads_setRead rfl ?_, by simp⟩
    · exact fun rest _ => readString_print ..
    · exact fun rest _ => readString_print ..
    · exact fun rest _ => readOption_print ..
    · exact fun rest _ => readVariant_print s.target.variant?_name (depth + 3)
    · exact fun rest _ => s.runtime.read_toJson (depth + 1) rest
    · exact fun rest _ => s.codegen.read_toJson depth rest
  have record : layout.IsRecord s.entries := ⟨by simp [entries], by simp [layout, entries]⟩
  exact read_print reads record rest

theorem parse_toJson (s : Settings) : parse s.toJson.render = .ok s := by
  have read : layout.read depthLimit (s.toJson.print ++ []) = .ok (s, []) := s.read_toJson 123 []
  rw [parse, readDocument_render read]
  rfl

end Settings

end Cratewright
