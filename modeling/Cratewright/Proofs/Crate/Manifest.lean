/-
Requests in a manifest.

A set tells dependencies apart by name, location and scope, but a table of a manifest has one
entry for a name. Of several locations that are asked for under one name and scope, the
greatest prevails, and nothing of the others is left:

* `DependencySet.entryOf?_eq` — the entry of a crate is the record of the last dependency of
  its name and scope;
* `DependencySet.Gathers.entryOf?` — that is what is asked for at the location that prevails;
* `DependencySet.honours_iff` — the tables honour a request exactly if that location has the
  version and path of the request's own, and all its features are asked for there;
* `DependencySet.not_forall_honours` — so features can get lost.
-/
import Cratewright.Crate.Manifest
import Cratewright.Proofs.Crate.Merge

namespace Cratewright

/-! ### Looking into tables -/

namespace Toml

/-- The value at a path of names. -/
def at? : List String → Toml → Option Toml
  | [], v => some v
  | name :: rest, v => (v.find? name).bind (at? rest)

/-- The features that the entry of a crate lists. -/
def featureList (entry : Toml) : List String :=
  match entry.find? "features" with
  | some (list items) => items
  | _ => []

theorem findEntry_eq_find? (name : String) : ∀ l : List (String × Toml),
    SortedMap.findEntry name l = (l.find? fun e => e.1 == name).map Prod.snd
  | [] => rfl
  | e :: rest => by
    rw [SortedMap.findEntry, List.find?_cons, findEntry_eq_find? name rest]
    by_cases h : e.1 = name
    · rw [← h, Std.ReflOrd.compare_self, beq_self_eq_true]
      rfl
    · rw [if_neg fun he => h (Std.LawfulEqOrd.eq_of_compare he).symm,
        beq_eq_false_iff_ne.mpr h]

theorem find?_ofMap (name : String) (m : SortedMap String Toml) :
    (ofMap m).find? name = m.find? name :=
  (findEntry_eq_find? name m.entries).symm

theorem at?_nest (path : List String) (v : Toml) : at? path (nest path v) = some v := by
  induction path with
  | nil => rfl
  | cons name rest ih =>
    rw [at?, nest, find?, List.find?_cons, beq_self_eq_true]
    exact ih

theorem at?_append (p q : List String) (v : Toml) :
    at? (p ++ q) v = (at? p v).bind (at? q) := by
  induction p generalizing v with
  | nil => rfl
  | cons name rest ih =>
    rw [List.cons_append, at?, at?, Option.bind_assoc]
    exact congrArg _ (funext ih)

end Toml

/-- A record's table gives back its version, its path and its features. -/
theorem DependencyRecord.toToml_spec (r : DependencyRecord) :
    r.toToml.find? "version" = r.version.map .text ∧
      r.toToml.find? "path" = r.path.map .text ∧ r.toToml.featureList = r.features := by
  rw [toToml, Toml.featureList, Toml.find?_ofMap, Toml.find?_ofMap, Toml.find?_ofMap,
    SortedMap.find?_ofList, SortedMap.find?_ofList, SortedMap.find?_ofList]
  obtain ⟨_, _, version, path, features, optional, defaultFeatures⟩ := r
  cases version <;> cases path <;> cases features <;> cases optional <;>
    cases defaultFeatures <;> simp [entries]

/-! ### The entry of a crate -/

namespace DependencySet

/-- The entry of a crate in the table of a scope. -/
def entryOf? (s : DependencySet) (base : String) (scope : Scope) (name : String) : Option Toml :=
  Toml.at? (scope.tablePath ++ [name]) (Toml.ofMap (s.manifestTables base))

/-- Puts the table of a scope into a manifest, unless it is empty. -/
def putTable (s : DependencySet) (base : String) (m : SortedMap String Toml) (scope : Scope) :
    SortedMap String Toml :=
  match scope.tablePath with
  | name :: rest =>
    if (s.scopeTable base scope).isEmpty then m
    else m.insert name (Toml.nest rest (Toml.ofMap (s.scopeTable base scope)))
  | [] => m

theorem manifestTables_eq (s : DependencySet) (base : String) :
    s.manifestTables base
      = [Scope.build, .cfgUnstable, .compile, .dev].foldl (s.putTable base) SortedMap.empty :=
  rfl

theorem exists_tablePath (scope : Scope) : ∃ name rest, scope.tablePath = name :: rest := by
  cases scope <;> exact ⟨_, _, rfl⟩

/-- No two scopes share a table. -/
theorem tablePath_injective {a b : Scope} {name : String} {p q : List String}
    (ha : a.tablePath = name :: p) (hb : b.tablePath = name :: q) : a = b := by
  cases a <;> cases b <;> first | rfl | (cases ha; exact absurd hb (by simp [Scope.tablePath]))

theorem find?_putTable {s : DependencySet} {base : String} {m : SortedMap String Toml}
    {scope : Scope} {name : String} {rest : List String} (h : scope.tablePath = name :: rest)
    (other : Scope) :
    (s.putTable base m other).find? name =
      if other = scope ∧ (s.scopeTable base scope).isEmpty = false then
        some (Toml.nest rest (Toml.ofMap (s.scopeTable base scope)))
      else m.find? name := by
  obtain ⟨place, inner, hother⟩ := exists_tablePath other
  rw [putTable, hother]
  show SortedMap.find? (if _ then _ else _) name = _
  by_cases same : other = scope
  · subst same
    rw [h] at hother
    cases hother
    cases (s.scopeTable base other).isEmpty <;> simp
  · have ne : name ≠ place := by
      rintro rfl
      exact same (tablePath_injective hother h)
    cases (s.scopeTable base other).isEmpty <;> simp [ne, same]

theorem find?_foldl_putTable {s : DependencySet} {base : String} {scope : Scope}
    {name : String} {rest : List String} (h : scope.tablePath = name :: rest)
    (scopes : List Scope) (m : SortedMap String Toml) :
    (scopes.foldl (s.putTable base) m).find? name =
      if scope ∈ scopes ∧ (s.scopeTable base scope).isEmpty = false then
        some (Toml.nest rest (Toml.ofMap (s.scopeTable base scope)))
      else m.find? name := by
  induction scopes generalizing m with
  | nil => simp
  | cons other scopes ih =>
    rw [List.foldl_cons, ih, find?_putTable h]
    by_cases full : (s.scopeTable base scope).isEmpty = false
    · by_cases here : other = scope
      · simp [full, here]
      · simp [full, here, Ne.symm here]
    · simp [full]

/-- The table of a scope stands at its place, unless it is empty. -/
theorem at?_tablePath (s : DependencySet) (base : String) (scope : Scope) :
    Toml.at? scope.tablePath (Toml.ofMap (s.manifestTables base)) =
      if (s.scopeTable base scope).isEmpty then none
      else some (Toml.ofMap (s.scopeTable base scope)) := by
  obtain ⟨name, rest, h⟩ := exists_tablePath scope
  have all : scope ∈ [Scope.build, .cfgUnstable, .compile, .dev] := by cases scope <;> decide
  rw [h, Toml.at?, Toml.find?_ofMap, manifestTables_eq, find?_foldl_putTable h]
  cases (s.scopeTable base scope).isEmpty with
  | true =>
    rw [if_neg (by simp), if_pos rfl]
    rfl
  | false =>
    rw [if_pos ⟨all, rfl⟩, if_neg (by decide)]
    exact Toml.at?_nest rest _

theorem at?_singleton (name : String) (v : Toml) : Toml.at? [name] v = v.find? name := by
  rw [Toml.at?]
  cases v.find? name <;> rfl

/-- The entry of a crate is the record of the last dependency of its name and scope. -/
theorem entryOf?_eq (s : DependencySet) (base : String) (scope : Scope) (name : String) :
    s.entryOf? base scope name =
      (s.toList.reverse.find? fun d => d.scope == scope && d.name == name).map fun d =>
        (DependencyRecord.ofDependency d base).toToml := by
  have table : s.entryOf? base scope name = (s.scopeTable base scope).find? name := by
    rw [entryOf?, Toml.at?_append, at?_tablePath]
    cases empty : (s.scopeTable base scope).isEmpty with
    | true =>
      have nil := List.isEmpty_iff.mp empty
      rw [if_pos rfl, SortedMap.find?, nil]
      rfl
    | false =>
      rw [if_neg (by decide), Option.bind_some, at?_singleton, Toml.find?_ofMap]
  rw [table, scopeTable, SortedMap.find?_ofList, records, List.filter_map, List.map_map,
    ← List.map_reverse, List.find?_map, ← List.filter_reverse, List.find?_filter,
    Option.map_map]
  refine congrArg _ (congrArg (List.find? · _) (funext fun d => ?_))
  show decide ((d.scope == scope) = true ∧ (d.name == name) = true) = _
  rw [Bool.decide_and, Bool.decide_eq_true, Bool.decide_eq_true]

/-! ### Which location prevails -/

/-- Dependencies of one name and scope stand in the order of their locations. -/
theorem compare_location {a b : CrateDependency} (name : a.name = b.name)
    (scope : a.scope = b.scope) : compare a.key b.key = compare a.location b.location := by
  show (compare a.name b.name).then
    ((compare a.location b.location).then (compare a.scope b.scope)) = _
  rw [name, scope, Std.ReflOrd.compare_self, Std.ReflOrd.compare_self, Ordering.then_eq,
    Ordering.eq_then]

variable {s : DependencySet} {ds : List CrateDependency}

/-- The dependencies of a set are listed in the order of their keys. -/
theorem Gathers.pairwise_toList (h : s.Gathers ds) :
    s.toList.Pairwise fun a b => compare a.key b.key = .lt :=
  SortedMap.pairwise_values fun k n hn => (h.sound k n hn).key

/-- Among the requests for a crate, one whose location no other exceeds. -/
structure Prevails (ds : List CrateDependency) (scope : Scope) (name : String)
    (w : CrateDependency) : Prop where
  mem : w ∈ ds
  scope_eq : w.scope = scope
  name_eq : w.name = name
  greatest : ∀ d ∈ ds, d.scope = scope → d.name = name →
    (compare d.location w.location).isLE

/-- The entry of a crate that is asked for gathers the requests at the location that
prevails. -/
theorem Gathers.entryOf? (h : s.Gathers ds) (base : String) {d : CrateDependency}
    (hd : d ∈ ds) :
    ∃ w m, Prevails ds d.scope d.name w ∧ m.Gathers ds w.key ∧
      s.entryOf? base d.scope d.name = some (DependencyRecord.ofDependency m base).toToml := by
  rw [entryOf?_eq]
  obtain ⟨n, hn⟩ := h.complete d hd
  have key := (h.sound _ n hn).key
  cases found : s.toList.reverse.find? fun e => e.scope == d.scope && e.name == d.name with
  | none =>
    -- The set has a dependency for `d`, and it is of this name and scope.
    have out := List.find?_eq_none.mp found n
    rw [List.mem_reverse, h.mem_toList_iff, key] at out
    refine absurd ?_ (out hn)
    rw [show n.scope = d.scope from congrArg DependencyKey.scope key,
      show n.name = d.name from congrArg DependencyKey.name key]
    simp
  | some m =>
    obtain ⟨hm, before, after, split, others⟩ := List.find?_eq_some_iff_append.mp found
    rw [Bool.and_eq_true, beq_iff_eq, beq_iff_eq] at hm
    obtain ⟨scope, name⟩ := hm
    have stored : m ∈ s.toList := by
      rw [← List.mem_reverse, split]
      simp
    have gathers := h.sound _ m (h.mem_toList_iff.mp stored)
    obtain ⟨w, hw, hwm, _⟩ := gathers.importName_mem
    rw [← hwm] at gathers
    refine ⟨w, m, ⟨hw, ?_, ?_, fun e he hes hen => ?_⟩, gathers, rfl⟩
    · exact (congrArg DependencyKey.scope hwm).trans scope
    · exact (congrArg DependencyKey.name hwm).trans name
    · obtain ⟨x, hx⟩ := h.complete e he
      have hxk := (h.sound _ x hx).key
      have hxs : x.scope = m.scope :=
        (congrArg DependencyKey.scope hxk).trans (hes.trans scope.symm)
      have hxn : x.name = m.name :=
        (congrArg DependencyKey.name hxk).trans (hen.trans name.symm)
      rw [← show x.location = e.location from congrArg DependencyKey.location hxk,
        show w.location = m.location from congrArg DependencyKey.location hwm]
      -- `m` is the last of its name and scope, so `x` stands before it or is `m` itself.
      have place : x ∈ s.toList.reverse := by
        rw [← hxk] at hx
        exact List.mem_reverse.mpr (h.mem_toList_iff.mpr hx)
      rw [split] at place
      rcases List.mem_append.mp place with earlier | later
      · have miss := others x earlier
        rw [hxs, hxn, scope, name] at miss
        simp at miss
      · rcases List.mem_cons.mp later with rfl | later
        · rw [Std.ReflOrd.compare_self]
          rfl
        · have sorted := List.pairwise_reverse.mpr h.pairwise_toList
          rw [split, List.pairwise_append] at sorted
          have lt := (List.pairwise_cons.mp sorted.2.1).1 x later
          rw [compare_location hxn hxs] at lt
          rw [lt]
          rfl

theorem Prevails.key_eq {scope : Scope} {name : String} {v w : CrateDependency}
    (hv : Prevails ds scope name v) (hw : Prevails ds scope name w) : v.key = w.key := by
  have location : v.location = w.location := by
    apply Std.LawfulEqOrd.eq_of_compare
    exact Std.OrientedCmp.isLE_antisymm (hw.greatest v hv.mem hv.scope_eq hv.name_eq)
      (hv.greatest w hw.mem hw.scope_eq hw.name_eq)
  rw [CrateDependency.key, CrateDependency.key, location, hv.scope_eq, hw.scope_eq,
    hv.name_eq, hw.name_eq]

/-! ### Requests that survive -/

/-- The tables list a request: its crate has an entry of the request's version and path
with all its features. -/
def Honours (s : DependencySet) (base : String) (d : CrateDependency) : Prop :=
  ∃ entry, s.entryOf? base d.scope d.name = some entry ∧
    (∀ f ∈ d.features.toList, f ∈ entry.featureList) ∧
    entry.find? "version" = (DependencyRecord.ofDependency d base).version.map .text ∧
    entry.find? "path" = (DependencyRecord.ofDependency d base).path.map .text

theorem record_eq_of_key {a b : CrateDependency} (h : a.key = b.key) (base : String) :
    (DependencyRecord.ofDependency a base).version =
        (DependencyRecord.ofDependency b base).version ∧
      (DependencyRecord.ofDependency a base).path =
        (DependencyRecord.ofDependency b base).path := by
  have name : a.name = b.name := congrArg DependencyKey.name h
  have location : a.location = b.location := congrArg DependencyKey.location h
  rw [DependencyRecord.ofDependency, DependencyRecord.ofDependency, name, location]
  exact ⟨rfl, rfl⟩

/-- The tables honour a request exactly if the location that prevails has the version and
path of the request, and all its features are asked for there. -/
theorem Gathers.honours_iff_prevails (h : s.Gathers ds) (base : String) {d : CrateDependency}
    (hd : d ∈ ds) : s.Honours base d ↔ ∃ w, Prevails ds d.scope d.name w ∧
      (DependencyRecord.ofDependency w base).version =
        (DependencyRecord.ofDependency d base).version ∧
      (DependencyRecord.ofDependency w base).path =
        (DependencyRecord.ofDependency d base).path ∧
      ∀ f ∈ d.features.toList, ∃ e ∈ ds, e.key = w.key ∧ f ∈ e.features.toList := by
  obtain ⟨w, m, hw, hm, entry⟩ := h.entryOf? base hd
  obtain ⟨version, path, features⟩ :=
    (DependencyRecord.ofDependency m base).toToml_spec
  -- Version and path come from the key, so `m` has those of `w`; its features are all
  -- that are asked for under that key.
  obtain ⟨hversion, hpath⟩ := record_eq_of_key hm.key base
  rw [hversion] at version
  rw [hpath] at path
  have text : Function.Injective (Option.map Toml.text) :=
    Option.map_injective fun _ _ h => Toml.text.inj h
  constructor
  · rintro ⟨_, found, all, sameVersion, samePath⟩
    rw [entry] at found
    cases found
    rw [version] at sameVersion
    rw [path] at samePath
    refine ⟨w, hw, text sameVersion, text samePath, fun f hf => ?_⟩
    have listed := all f hf
    rw [features] at listed
    exact (hm.features f).mp listed
  · rintro ⟨v, hv, sameVersion, samePath, all⟩
    have key := hv.key_eq hw
    obtain ⟨hv₁, hv₂⟩ := record_eq_of_key key base
    rw [hv₁] at sameVersion
    rw [hv₂] at samePath
    refine ⟨_, entry, fun f hf => ?_, ?_, ?_⟩
    · rw [features]
      obtain ⟨e, he, hek, hef⟩ := all f hf
      exact (hm.features f).mpr ⟨e, he, hek.trans key, hef⟩
    · rw [version, sameVersion]
    · rw [path, samePath]

/-- **Which requests survive.**  Whatever is added to a set, its tables honour a request
exactly if a request of its name and scope prevails that has its version and path, and all
its features are asked for under the key of the one that prevails. -/
theorem honours_iff (ds : List CrateDependency) (base : String) :
    ∃ s, empty.addAll ds = .ok s ∧ ∀ d ∈ ds, (s.Honours base d ↔
      ∃ w, Prevails ds d.scope d.name w ∧
        (DependencyRecord.ofDependency w base).version =
          (DependencyRecord.ofDependency d base).version ∧
        (DependencyRecord.ofDependency w base).path =
          (DependencyRecord.ofDependency d base).path ∧
        ∀ f ∈ d.features.toList, ∃ e ∈ ds, e.key = w.key ∧ f ∈ e.features.toList) := by
  obtain ⟨s, hs, h⟩ := exists_addAll ds
  exact ⟨s, hs, fun d hd => h.honours_iff_prevails base hd⟩

/-- Nothing gets lost of a crate that is asked for at one location only. -/
theorem Gathers.honours_of_location (h : s.Gathers ds) (base : String) {d : CrateDependency}
    (hd : d ∈ ds)
    (one : ∀ e ∈ ds, e.scope = d.scope → e.name = d.name → e.location = d.location) :
    s.Honours base d := by
  rw [h.honours_iff_prevails base hd]
  refine ⟨d, ⟨hd, rfl, rfl, fun e he hscope hname => ?_⟩, rfl, rfl,
    fun f hf => ⟨d, hd, rfl, hf⟩⟩
  rw [one e he hscope hname, Std.ReflOrd.compare_self]
  rfl

/-- A crate in a directory of runtime crates, with one feature. -/
def runtimeCrate (directory feature : String) : CrateDependency :=
  { CrateDependency.new "smithy-types" (.directory directory none) with
    features := SortedSet.ofList [feature] }

/-- A feature gets lost where one directory is written in two ways. -/
theorem not_forall_honours :
    ¬ ∀ (ds : List CrateDependency) (base : String) (s : DependencySet),
      empty.addAll ds = .ok s → ∀ d ∈ ds, s.Honours base d := by
  intro all
  let client := runtimeCrate "../runtime" "client"
  let ds := [client, runtimeCrate "../runtime/" "server"]
  obtain ⟨s, hs, _⟩ := exists_addAll ds
  obtain ⟨entry, found, features, _⟩ := all ds "." s hs client (List.mem_cons_self ..)
  -- The two directories are two keys, and the second stands last.
  have lists : (empty.addAll ds).toOption.bind
      (fun s => (s.entryOf? "." client.scope client.name).map Toml.featureList)
        = some ["server"] := by
    decide +kernel
  rw [hs, Except.toOption, Option.bind_some, found, Option.map_some, Option.some_inj] at lists
  have listed := features "client" (by decide +kernel)
  rw [lists] at listed
  exact absurd listed (by decide)

end DependencySet

end Cratewright
