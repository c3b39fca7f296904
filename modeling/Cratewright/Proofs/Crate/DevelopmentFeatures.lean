/-
Features for development.

Some features are meant for development only. Whatever is done with dependencies, they are
asked for in the scope of development and nowhere else, because each operation either checks
what it makes or changes neither the scope nor the features; merging adds up features of one
scope. So no table of a manifest lists them but that of the development dependencies:

* `CrateDependency.made_iff` — the dependencies that can be made are the permitted ones;
* `DependencySet.path_of_mem_featureList` — where in a manifest features are listed;
* `Run.Completes.made_dependencies` — a run collects what can be made;
* `DependencySet.confines_of_made` — sets, their manifests, and finished runs.
-/
import Cratewright.Crate.Known
import Cratewright.Proofs.Crate.Manifest
import Cratewright.Proofs.Source.Closure

namespace Cratewright

/-! ### Dependencies that can be made -/

/-- The fixed third-party crates. -/
def Known.all : List CrateDependency :=
  [bytes, fastrand, futuresCore, http, httpBody, hyper, hyperWithStream, md5, serde,
    futuresUtilDev, prettyAssertions, tokioDev]

/-- The runtime crates that generated code is known to use. -/
def RuntimeConfig.crates (c : RuntimeConfig) : List CrateDependency :=
  [c.smithyTypes, c.smithyHttpServer, c.smithyJson, c.smithyXml, c.smithyRuntimeApi]

namespace CrateDependency

/-- A feature for development is asked for in the scope of development only. -/
def IsPermitted (d : CrateDependency) : Prop :=
  ∀ f ∈ devOnlyFeatures, f ∈ d.features.toList → d.scope = .dev

/-- The dependencies that can be made, from nothing or from others. -/
inductive Made : CrateDependency → Prop where
  | new (name : String) (location : Location) (scope : Scope) : Made (.new name location scope)
  | dev (name : String) (location : Location) (features : List String) :
      Made (.dev name location features)
  | build {s : DependencySpec} {d : CrateDependency} : s.build = .ok d → Made d
  | known {d : CrateDependency} : d ∈ Known.all → Made d
  | runtime {c : RuntimeConfig} {d : CrateDependency} : d ∈ c.crates → Made d
  | runtimeCrate (c : RuntimeConfig) (name : String) (scope : Scope) :
      Made (c.runtimeCrate name scope)
  | withFeature {d e : CrateDependency} {feature : String} :
      Made d → d.withFeature feature = .ok e → Made e
  | withScope {d e : CrateDependency} {scope : Scope} :
      Made d → d.withScope scope = .ok e → Made e
  | toDev {d : CrateDependency} : Made d → Made d.toDev
  | withoutDefaultFeatures {d : CrateDependency} : Made d → Made d.withoutDefaultFeatures
  | toOptional {d : CrateDependency} : Made d → Made d.toOptional
  | withImportName {d : CrateDependency} (importName : String) :
      Made d → Made (d.withImportName importName)
  | merge {a b m : CrateDependency} : Made a → Made b → a.merge b = .ok m → Made m

instance (d : CrateDependency) : Decidable d.IsPermitted :=
  inferInstanceAs (Decidable (∀ f ∈ devOnlyFeatures, f ∈ d.features.toList → d.scope = .dev))

theorem contains_features_iff {d : CrateDependency} {f : String} :
    d.features.contains f = true ↔ f ∈ d.features.toList := by
  rw [SortedMap.contains, Option.isSome_iff_exists, SortedSet.toList, SortedMap.mem_keys_iff]

/-- The check lets a dependency through exactly if it is permitted. -/
theorem validate_eq_ok_iff {d e : CrateDependency} :
    d.validate = .ok e ↔ d = e ∧ d.IsPermitted := by
  rw [validate]
  by_cases scope : d.scope = .dev
  · rw [if_pos scope, Except.ok.injEq]
    exact (and_iff_left fun _ _ _ => scope).symm
  · rw [if_neg scope]
    cases found : devOnlyFeatures.find? d.features.contains with
    | some f =>
      have listed : f ∈ d.features.toList := contains_features_iff.mp (List.find?_some found)
      refine ⟨nofun, fun ⟨_, permitted⟩ => ?_⟩
      exact absurd (permitted f (List.mem_of_find?_eq_some found) listed) scope
    | none =>
      rw [Except.ok.injEq]
      refine (and_iff_left fun f hf listed => ?_).symm
      exact absurd (contains_features_iff.mpr listed) (List.find?_eq_none.mp found f hf)

theorem isPermitted_of_validate {d e : CrateDependency} (h : d.validate = .ok e) :
    e.IsPermitted := by
  obtain ⟨rfl, permitted⟩ := validate_eq_ok_iff.mp h
  exact permitted

theorem isPermitted_of_features {d : CrateDependency}
    (h : ∀ f ∈ d.features.toList, f ∉ devOnlyFeatures) : d.IsPermitted :=
  fun f hf listed => absurd hf (h f listed)

/-- What gathers permitted requests is permitted: they are all of one scope. -/
theorem Gathers.isPermitted {ds : List CrateDependency} {k : DependencyKey}
    {m : CrateDependency} (h : m.Gathers ds k) (hds : ∀ d ∈ ds, d.IsPermitted) :
    m.IsPermitted := by
  intro f hf listed
  obtain ⟨d, hd, key, asked⟩ := (h.features f).mp listed
  have scope : d.scope = m.scope := congrArg DependencyKey.scope (key.trans h.key.symm)
  rw [← scope]
  exact hds d hd f hf asked

theorem isPermitted_of_merge {a b m : CrateDependency} (ha : a.IsPermitted)
    (hb : b.IsPermitted) (h : a.merge b = .ok m) : m.IsPermitted := by
  by_cases key : a.key = b.key
  · have gathers := b.gathers_singleton
    rw [← key] at gathers
    obtain ⟨n, hn, hgn⟩ := a.gathers_singleton.merge gathers
    rw [h, Except.ok.injEq] at hn
    subst hn
    exact hgn.isPermitted (by simp [ha, hb])
  · rw [merge, if_neg key] at h
    cases h

theorem Made.isPermitted {d : CrateDependency} (h : Made d) : d.IsPermitted := by
  induction h with
  | new | runtimeCrate => exact isPermitted_of_features nofun
  | dev => exact fun _ _ _ => rfl
  | build h => exact isPermitted_of_validate h
  | known h =>
    have all : ∀ d ∈ Known.all, d.IsPermitted := by decide
    exact all _ h
  | @runtime c d h =>
    -- Only the runtime interface has a feature, and that is for clients.
    refine isPermitted_of_features fun f hf => ?_
    simp only [RuntimeConfig.crates, List.mem_cons, List.not_mem_nil, or_false] at h
    rcases h with rfl | rfl | rfl | rfl | rfl
    case inr.inr.inr.inr =>
      rcases SortedSet.mem_toList_add.mp hf with rfl | hf
      · decide
      · cases hf
    all_goals cases hf
  | withFeature _ h _ | withScope _ h _ => exact isPermitted_of_validate h
  | toDev => exact fun _ _ _ => rfl
  | withoutDefaultFeatures _ ih | toOptional _ ih | withImportName _ _ ih => exact ih
  | merge _ _ h iha ihb => exact isPermitted_of_merge iha ihb h

/-- The dependencies that can be made are the permitted ones: each of these can be described
field by field. -/
theorem made_iff {d : CrateDependency} : Made d ↔ d.IsPermitted := by
  refine ⟨Made.isPermitted, fun permitted => ?_⟩
  let spec : DependencySpec :=
    { d with importName := some d.importName }
  exact .build (s := spec) (validate_eq_ok_iff.mpr ⟨rfl, permitted⟩)

/-- A crate for tests has a feature for development, in its scope. -/
example : Known.tokioDev.features.contains "test-util" = true ∧ Known.tokioDev.scope = .dev := by
  decide

end CrateDependency

/-! ### Where a manifest lists features -/

namespace Toml

/-- A table of tables lists no features of its own. -/
theorem featureList_eq_nil {v : Toml} (h : ∀ e, v.find? "features" = some e → e.isTable) :
    v.featureList = [] := by
  rw [featureList]
  split
  · rename_i found
    cases h _ found
  · rfl

theorem find?_of_not_isTable {v : Toml} (h : v.isTable = false) (name : String) :
    v.find? name = none := by
  cases v with
  | table => cases h
  | text | flag | list => rfl

theorem isTable_nest (path : List String) {v : Toml} (h : v.isTable) : (nest path v).isTable := by
  cases path with
  | nil => exact h
  | cons name rest => rfl

/-- Below a chain of tables, features are listed in the last of them only. -/
theorem exists_append_of_at?_nest {rest path : List String} {v entry : Toml} {f : String}
    (table : v.isTable) (h : at? path (nest rest v) = some entry) (hf : f ∈ entry.featureList) :
    ∃ inner, path = rest ++ inner ∧ at? inner v = some entry := by
  induction rest generalizing path with
  | nil => exact ⟨path, rfl, h⟩
  | cons name rest ih =>
    have only (n : String) (e : Toml) (found : (nest (name :: rest) v).find? n = some e) :
        n = name ∧ e = nest rest v := by
      rw [nest, find?, List.find?_cons] at found
      split at found
      · rename_i same
        exact ⟨(beq_iff_eq.mp same).symm, (Option.some.inj found).symm⟩
      · cases found
    cases path with
    | nil =>
      rw [at?, Option.some_inj] at h
      rw [← h, featureList_eq_nil fun e he => (only _ e he).2 ▸ isTable_nest rest table] at hf
      cases hf
    | cons n path =>
      obtain ⟨e, he, h⟩ := Option.bind_eq_some_iff.mp h
      obtain ⟨rfl, rfl⟩ := only n e he
      obtain ⟨inner, rfl, found⟩ := ih h
      exact ⟨inner, rfl, found⟩

end Toml

namespace DependencyRecord

/-- The entries of a record are no tables. -/
theorem isTable_of_find?_toToml {r : DependencyRecord} {name : String} {v : Toml}
    (h : r.toToml.find? name = some v) : v.isTable = false := by
  rw [toToml, Toml.find?_ofMap] at h
  have mem := SortedMap.mem_of_find?_ofList h
  simp only [entries, List.mem_append, Option.mem_toList, Option.map_eq_some_iff, Prod.mk.injEq]
    at mem
  rcases mem with (((⟨_, _, _, rfl⟩ | ⟨_, _, _, rfl⟩) | mem) | mem) | mem
  · rfl
  · rfl
  all_goals
    split at mem
    · simp_all [Toml.isTable]
    · simp_all [Toml.isTable]

end DependencyRecord

namespace DependencySet

variable {s : DependencySet} {base : String}

theorem exists_of_find?_scopeTable {scope : Scope} {name : String} {v : Toml}
    (h : (s.scopeTable base scope).find? name = some v) :
    ∃ r : DependencyRecord, v = r.toToml := by
  obtain ⟨r, _, same⟩ := List.mem_map.mp (SortedMap.mem_of_find?_ofList h)
  exact ⟨r, (Prod.ext_iff.mp same).2.symm⟩

theorem exists_of_find?_foldl_putTable {scopes : List Scope} {m : SortedMap String Toml}
    {name : String} {v : Toml}
    (h : (scopes.foldl (s.putTable base) m).find? name = some v) :
    m.find? name = some v ∨ ∃ scope rest, scope.tablePath = name :: rest ∧
      v = Toml.nest rest (Toml.ofMap (s.scopeTable base scope)) := by
  induction scopes generalizing m with
  | nil => exact .inl h
  | cons scope scopes ih =>
    rcases ih h with h | later
    · obtain ⟨place, rest, path⟩ := exists_tablePath scope
      by_cases same : name = place
      · subst same
        rw [find?_putTable path, if_congr (and_iff_right rfl) rfl rfl] at h
        split at h
        · exact .inr ⟨scope, rest, path, (Option.some.inj h).symm⟩
        · exact .inl h
      · refine .inl ?_
        rw [putTable, path] at h
        dsimp only at h
        split at h
        · exact h
        · rwa [SortedMap.find?_insert, if_neg same] at h
    · exact .inr later

/-- In the table of a scope, the entries of crates list features, and nothing else does. -/
theorem eq_singleton_of_mem_featureList {scope : Scope} {path : List String} {entry : Toml}
    {f : String} (h : Toml.at? path (Toml.ofMap (s.scopeTable base scope)) = some entry)
    (hf : f ∈ entry.featureList) : ∃ crate, path = [crate] := by
  cases path with
  | nil =>
    rw [Toml.at?, Option.some_inj] at h
    rw [← h, Toml.featureList_eq_nil] at hf
    · cases hf
    · intro e he
      rw [Toml.find?_ofMap] at he
      obtain ⟨r, rfl⟩ := exists_of_find?_scopeTable he
      rfl
  | cons crate below =>
    cases below with
    | nil => exact ⟨crate, rfl⟩
    | cons key below =>
      obtain ⟨e, he, h⟩ := Option.bind_eq_some_iff.mp h
      rw [Toml.find?_ofMap] at he
      obtain ⟨r, rfl⟩ := exists_of_find?_scopeTable he
      obtain ⟨v, hv, h⟩ := Option.bind_eq_some_iff.mp h
      have plain (n : String) : v.find? n = none :=
        Toml.find?_of_not_isTable (DependencyRecord.isTable_of_find?_toToml hv) n
      cases below with
      | nil =>
        rw [Toml.at?, Option.some_inj] at h
        rw [← h, Toml.featureList_eq_nil fun e he => by rw [plain] at he; cases he] at hf
        cases hf
      | cons n below =>
        rw [Toml.at?, plain] at h
        cases h

/-- Features are listed in the entries of crates only. -/
theorem path_of_mem_featureList {path : List String} {entry : Toml} {f : String}
    (h : Toml.at? path (Toml.ofMap (s.manifestTables base)) = some entry)
    (hf : f ∈ entry.featureList) : ∃ scope name, path = Scope.tablePath scope ++ [name] := by
  have tables (name : String) (v : Toml)
      (found : (Toml.ofMap (s.manifestTables base)).find? name = some v) :
      ∃ scope rest, Scope.tablePath scope = name :: rest ∧
        v = Toml.nest rest (Toml.ofMap (s.scopeTable base scope)) := by
    rw [Toml.find?_ofMap, manifestTables_eq] at found
    exact (exists_of_find?_foldl_putTable found).resolve_left nofun
  cases path with
  | nil =>
    rw [Toml.at?, Option.some_inj] at h
    rw [← h, Toml.featureList_eq_nil] at hf
    · cases hf
    · intro e he
      obtain ⟨_, rest, _, rfl⟩ := tables _ e he
      exact Toml.isTable_nest rest rfl
  | cons name path =>
    obtain ⟨v, hv, h⟩ := Option.bind_eq_some_iff.mp h
    obtain ⟨scope, rest, place, rfl⟩ := tables name v hv
    obtain ⟨inner, rfl, found⟩ := Toml.exists_append_of_at?_nest rfl h hf
    obtain ⟨crate, rfl⟩ := eq_singleton_of_mem_featureList found hf
    exact ⟨scope, crate, by rw [place, List.cons_append]⟩

/-! ### Sets that can be made -/

/-- The sets that can be made of such dependencies. -/
inductive Made : DependencySet → Prop where
  | empty : Made .empty
  | add {s t : DependencySet} {d : CrateDependency} :
      Made s → CrateDependency.Made d → s.add d = .ok t → Made t
  | extend {s t u : DependencySet} : Made s → Made t → s.extend t = .ok u → Made u

/-- Nothing that is made of the set lists a feature for development outside of the scope of
development. -/
structure Confines (s : DependencySet) : Prop where
  dependencies : ∀ d ∈ s.toList, d.IsPermitted
  records : ∀ base, ∀ r ∈ s.records base, ∀ f ∈ CrateDependency.devOnlyFeatures,
    f ∈ r.features → r.scope = .dev
  tables : ∀ base path entry, Toml.at? path (Toml.ofMap (s.manifestTables base)) = some entry →
    ∀ f ∈ CrateDependency.devOnlyFeatures, f ∈ entry.featureList →
      ∃ name, path = Scope.dev.tablePath ++ [name]

theorem Made.addAll {s t : DependencySet} {ds : List CrateDependency} (h : Made s)
    (hds : ∀ d ∈ ds, CrateDependency.Made d) (ht : s.addAll ds = .ok t) : Made t := by
  induction ds generalizing s with
  | nil =>
    cases ht
    exact h
  | cons d ds ih =>
    obtain ⟨u, hu, ht⟩ := Except.bind_eq_ok_iff.mp ht
    exact ih (h.add (hds d (List.mem_cons_self ..)) hu)
      (fun e he => hds e (List.mem_cons_of_mem _ he)) ht

/-- A set that can be made gathers permitted requests. -/
theorem Made.exists_gathers {s : DependencySet} (h : Made s) :
    ∃ ds, s.Gathers ds ∧ ∀ d ∈ ds, d.IsPermitted := by
  induction h with
  | empty => exact ⟨[], gathers_empty, nofun⟩
  | @add s t d _ hd ht ih =>
    obtain ⟨ds, hs, hds⟩ := ih
    obtain ⟨u, hu, hgu⟩ := hs.add d
    rw [ht, Except.ok.injEq] at hu
    subst hu
    refine ⟨_, hgu, List.forall_mem_append.mpr ⟨hds, ?_⟩⟩
    exact List.forall_mem_singleton.mpr hd.isPermitted
  | extend _ _ hu ihs iht =>
    obtain ⟨ds, hs, hds⟩ := ihs
    obtain ⟨es, ht, hes⟩ := iht
    obtain ⟨v, hv, hgv⟩ := hs.extend ht
    rw [hu, Except.ok.injEq] at hv
    subst hv
    exact ⟨_, hgv, List.forall_mem_append.mpr ⟨hds, hes⟩⟩

theorem Made.confines {s : DependencySet} (h : Made s) : s.Confines := by
  have dependencies : ∀ d ∈ s.toList, d.IsPermitted := by
    obtain ⟨ds, gathers, hds⟩ := h.exists_gathers
    exact fun d hd => (gathers.sound _ d (gathers.mem_toList_iff.mp hd)).isPermitted hds
  refine ⟨dependencies, fun base r hr f hf listed => ?_, fun base path entry found f hf listed => ?_⟩
  · obtain ⟨d, hd, rfl⟩ := List.mem_map.mp hr
    exact dependencies d hd f hf listed
  · -- The entry at the path is that of a dependency of its scope.
    obtain ⟨scope, name, rfl⟩ := path_of_mem_featureList found listed
    have entryOf : s.entryOf? base scope name = some entry := found
    rw [entryOf?_eq] at entryOf
    obtain ⟨d, hd, rfl⟩ := Option.map_eq_some_iff.mp entryOf
    have mem := List.mem_reverse.mp (List.mem_of_find?_eq_some hd)
    have asked := List.find?_some hd
    rw [Bool.and_eq_true, beq_iff_eq] at asked
    rw [(DependencyRecord.toToml_spec _).2.2] at listed
    rw [← asked.1, dependencies d mem f hf listed]
    exact ⟨name, rfl⟩

end DependencySet

/-! ### Finished runs -/

namespace Run

variable {φ : Type} [FragmentKind φ] {log : List (Requirement φ)}

/-- What is written was asked for, or is needed by something that is mentioned. -/
theorem Chronicle.mentioned {done : List φ} (h : Chronicle log done) :
    ∀ f ∈ done, Mentioned log f := by
  induction h with
  | nil => exact fun f hf => by cases hf
  | @snoc done f _ first _ ih =>
    refine List.forall_mem_append.mpr ⟨ih, List.forall_mem_singleton.mpr ?_⟩
    rcases List.mem_append.mp (Requirement.mem_of_first first) with asked | needed
    · exact .asked asked
    · obtain ⟨d, hd, hf⟩ := List.mem_flatMap.mp needed
      exact (ih d hd).needed hf

/-- The crates that are asked for, and those that mentioned fragments need, can be made. -/
structure CratesMade (log : List (Requirement φ)) : Prop where
  asked : ∀ d, .crate d ∈ log → CrateDependency.Made d
  needed : ∀ f, Mentioned log f → ∀ d, .crate d ∈ FragmentKind.needs f → CrateDependency.Made d

/-- A run collects nothing but what can be made. -/
theorem Completes.made_dependencies {members : List φ} {out : RunOutput}
    (h : Completes log members out) (made : CratesMade log) : out.dependencies.Made := by
  obtain ⟨n, scheduled, _⟩ := h.scheduled
  have mentioned := (chronicle_schedule log n).mentioned
  rw [scheduled] at mentioned
  refine DependencySet.Made.empty.addAll (fun d hd => ?_) h.dependencies
  rcases List.mem_append.mp (Requirement.mem_crates_iff.mp hd) with hd | hd
  · exact made.asked d hd
  · obtain ⟨f, hf, hd⟩ := List.mem_flatMap.mp hd
    exact made.needed f (mentioned f hf) d hd

end Run

/-- **Features for development stay in the scope of development.**  The dependencies that can
be made are those that ask for such features in no other scope. No record and no table but that
of the development dependencies lists such a feature, neither of a set that is made of these
dependencies nor of a run that is finished, whatever its history. -/
theorem DependencySet.confines_of_made :
    (∀ d, CrateDependency.Made d ↔ d.IsPermitted) ∧
    (∀ s, DependencySet.Made s → s.Confines) ∧
    ∀ (φ : Type) [FragmentKind φ] (actions : List (Action φ)),
      Run.CratesMade (actions.flatMap Action.requirements) →
        ∃ r, Run.replay actions = .ok r ∧ r.dependencies.Confines ∧
          ∀ out, r.finish? = some (.ok out) → out.dependencies.Confines := by
  refine ⟨fun _ => CrateDependency.made_iff, fun _ h => h.confines, fun φ _ actions made => ?_⟩
  obtain ⟨r, hr, gathers, _⟩ := Run.exists_replay actions
  refine ⟨r, hr, ?_, fun out hout => ?_⟩
  · have collected := DependencySet.addAll_of_gathers gathers.dependencies
    refine (DependencySet.Made.empty.addAll (fun d hd => ?_) collected).confines
    exact made.asked d (Requirement.mem_crates_iff.mp hd)
  · rcases gathers.finish? hout with ⟨_, _, _, _, failed, _⟩ | ⟨_, _, same, completes⟩
    · cases failed
    · cases same
      exact (completes.made_dependencies made).confines

end Cratewright
