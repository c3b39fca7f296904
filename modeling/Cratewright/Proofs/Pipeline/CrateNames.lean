/-
The names and the directories of crates.

Each service of a selection gets a crate of its own, in a directory of the crate's name. The
name keeps the words of the service's name, but neither its namespace nor the case of its
letters, so services whose names have the same words share a crate:

* `mem_serviceIds_of_selectServices` — the selected services are services of the model;
* `Path.join_right_inj` — the directories of different names are different;
* `crateName_eq_iff` — which services get one name, and so one directory.
-/
import Cratewright.Pipeline
import Cratewright.Proofs.Text.Words

namespace Cratewright

/-! ### Paths -/

namespace Path

theorem join_right_inj {base p q : String} (h : isAbsolute p = isAbsolute q) :
    join base p = join base q ↔ p = q := by
  rw [join, join, h]
  split
  · rfl
  · split
    · exact String.append_right_inj base
    · exact String.append_right_inj (base ++ "/")

theorem isAbsolute_append {q : String} (h : isAbsolute q = false) (p : String) :
    isAbsolute (p ++ q) = isAbsolute p := by
  rw [isAbsolute, String.toList_append, List.head?_append]
  cases hp : p.toList.head? with
  | none =>
    rw [isAbsolute, hp]
    exact h
  | some c =>
    rw [isAbsolute, hp]
    rfl

theorem isAbsolute_kebabCase (name : String) : isAbsolute (Text.kebabCase name) = false := by
  rw [isAbsolute, beq_eq_false_iff_ne]
  intro slash
  have mem := Text.isSeparator_slash.eq_of_mem_kebabCase (List.mem_of_mem_head? slash)
  exact absurd mem (by decide)

end Path

namespace Pipeline

variable {model : Model} {settings : Option Settings} {overrides : List String}
  {modelPath : String} {services : List ShapeId} {a b : ShapeId}

/-! ### Selections -/

theorem mem_serviceIds_of_requested {raw : String} (h : requested model raw = .ok a) :
    a ∈ model.serviceIds := by
  obtain ⟨id, _, h⟩ := Except.bind_eq_ok_iff.mp h
  split at h
  · rename_i known
    cases h
    exact List.contains_iff_mem.mp known
  · cases h

theorem mem_serviceIds_of_mapM {names : List String}
    (h : names.mapM (requested model) = .ok services) (ha : a ∈ services) :
    a ∈ model.serviceIds := by
  induction names generalizing services with
  | nil =>
    cases h
    cases ha
  | cons name names ih =>
    rw [List.mapM_cons] at h
    obtain ⟨id, hid, h⟩ := Except.bind_eq_ok_iff.mp h
    obtain ⟨ids, hids, h⟩ := Except.bind_eq_ok_iff.mp h
    cases h
    rcases List.mem_cons.mp ha with rfl | ha
    · exact mem_serviceIds_of_requested hid
    · exact ih hids ha

theorem mem_serviceIds_of_selectServices
    (h : selectServices model settings overrides modelPath = .ok services) (ha : a ∈ services) :
    a ∈ model.serviceIds := by
  rw [selectServices] at h
  generalize (if overrides.isEmpty then (settings.bind (·.service)).toList else overrides)
    = names at h
  split at h
  · -- Nothing is asked for, so all services are selected.
    split at h
    · cases h
    · cases h
      exact ha
  · exact mem_serviceIds_of_mapM h ha

/-! ### Names -/

/-- The name of the crate of one of the selected services. -/
def crateName (settings : Option Settings) (services : List ShapeId) (service : ShapeId) :
    String :=
  (settingsFor settings service (services.length == 1)).moduleName

/-- What the names of the crates of several services start with. -/
def cratePrefix : Option Settings → String
  | none => ""
  | some s => s.moduleName ++ "-"

/-- One of several services adds its name to what the names of the crates start with. -/
theorem crateName_eq (ha : a ∈ services) (hb : b ∈ services) (ne : a ≠ b) (service : ShapeId) :
    crateName settings services service
      = cratePrefix settings ++ Text.kebabCase service.name := by
  have several : (services.length == 1) = false := by
    rw [beq_eq_false_iff_ne]
    intro one
    obtain ⟨only, rfl⟩ := List.length_eq_one_iff.mp one
    exact ne ((List.mem_singleton.mp ha).trans (List.mem_singleton.mp hb).symm)
  rw [crateName, several]
  cases settings with
  | none => exact (String.empty_append ..).symm
  | some s => rfl

/-- **Crates that collide.**  Different services of a selection get one name for their
crates, and so one directory, if their own names have the same words up to letter case,
whatever their namespaces are. -/
theorem crateName_eq_iff (h : selectServices model settings overrides modelPath = .ok services)
    (ha : a ∈ services) (hb : b ∈ services) (ne : a ≠ b) (outDir : String) :
    a ∈ model.serviceIds ∧ b ∈ model.serviceIds ∧
    (crateName settings services a = crateName settings services b ↔
      Text.lowerWords a.name = Text.lowerWords b.name) ∧
    (Path.join outDir (crateName settings services a)
        = Path.join outDir (crateName settings services b) ↔
      Text.lowerWords a.name = Text.lowerWords b.name) := by
  have name (service : ShapeId) : crateName settings services service
      = cratePrefix settings ++ Text.kebabCase service.name :=
    crateName_eq ha hb ne service
  have absolute (service : ShapeId) : Path.isAbsolute (crateName settings services service)
      = Path.isAbsolute (cratePrefix settings) := by
    rw [name, Path.isAbsolute_append (Path.isAbsolute_kebabCase _)]
  have names : crateName settings services a = crateName settings services b ↔
      Text.lowerWords a.name = Text.lowerWords b.name := by
    rw [name, name, String.append_right_inj, Text.kebabCase_eq_iff]
  refine ⟨mem_serviceIds_of_selectServices h ha, mem_serviceIds_of_selectServices h hb, names, ?_⟩
  rw [Path.join_right_inj ((absolute a).trans (absolute b).symm), names]

/-- A service of the name in one of two namespaces. -/
def weather (space : String) : ShapeId := ⟨space, "Weather", none⟩

/-- Services of one name in two namespaces. -/
def weatherModel : Model :=
  (({} : Model).insert (weather "example") (.service {})).insert (weather "other") (.service {})

theorem selectServices_weatherModel :
    selectServices weatherModel none [] "model.json"
      = .ok [weather "example", weather "other"] := by
  rfl

theorem crateName_eq_iff_weather :
    ∃ services, selectServices weatherModel none [] "model.json" = .ok services ∧
      weather "example" ∈ services ∧ weather "other" ∈ services ∧
      weather "example" ≠ weather "other" ∧
      Path.join "generated" (crateName none services (weather "example"))
        = Path.join "generated" (crateName none services (weather "other")) := by
  have first : weather "example" ∈ [weather "example", weather "other"] := List.mem_cons_self ..
  have second : weather "other" ∈ [weather "example", weather "other"] :=
    List.mem_cons_of_mem _ (List.mem_cons_self ..)
  have ne : weather "example" ≠ weather "other" := by decide
  obtain ⟨_, _, _, directories⟩ :=
    crateName_eq_iff selectServices_weatherModel first second ne "generated"
  exact ⟨_, selectServices_weatherModel, first, second, ne, directories.mpr rfl⟩

/-- Different services of a selection do not always get different names for their crates. -/
theorem not_forall_crateName_ne :
    ¬ ∀ (model : Model) (settings : Option Settings) (overrides : List String)
      (modelPath : String) (services : List ShapeId),
      selectServices model settings overrides modelPath = .ok services →
        ∀ a ∈ services, ∀ b ∈ services, a ≠ b →
          crateName settings services a ≠ crateName settings services b := by
  intro distinct
  have ne : weather "example" ≠ weather "other" := by decide
  exact distinct _ _ _ _ _ selectServices_weatherModel _ (List.mem_cons_self ..) _
    (List.mem_cons_of_mem _ (List.mem_cons_self ..)) ne rfl

end Pipeline

end Cratewright
