/-
Runs whose fragments bring nothing in.

A fragment is shallow if its script records no error and it needs no other fragment. A run
that gathers shallow fragments only has nothing to write after the first round, so it comes
to an output, and the modules of this are those of what was gathered:

* `Run.Gathers.finish_of_shallow` — the output of such a run;
* `Registry.exists_home_registered_iff`, `Registry.Keyed.contents_eq` — the modules of a
  register and their texts.
-/
import Cratewright.Proofs.Source.Closure
import Cratewright.Proofs.Source.Scripts
import Cratewright.Source.Resource

namespace Cratewright

variable {φ : Type} [FragmentKind φ]

/-! ### Modules of a register -/

namespace Registry

/-- Each group bears the module of its first fragment. -/
theorem exists_head_of_mem_group : ∀ {fs : List φ} {g : SourceModule × List φ},
    g ∈ group fs → ∃ f rest, g.2 = f :: rest ∧ FragmentKind.home f = g.1
  | f :: fs, g, h => by
    have ih (g : SourceModule × List φ) (hg : g ∈ group fs) := exists_head_of_mem_group hg
    cases rest : group fs with
    | nil =>
      rw [group_cons_of_nil rest, List.mem_singleton] at h
      subst h
      exact ⟨f, [], rfl, rfl⟩
    | cons first groups =>
      rw [rest] at ih
      rw [group_cons_of_cons rest] at h
      split at h
      · rcases List.mem_cons.mp h with rfl | h
        · exact ⟨f, first.2, rfl, rfl⟩
        · exact ih g (List.mem_cons_of_mem _ h)
      · rcases List.mem_cons.mp h with rfl | h
        · exact ⟨f, [], rfl, rfl⟩
        · exact ih g h

/-- A group holds all fragments of its path. -/
theorem Layout.filter_eq {fs : List φ} {groups : List (SourceModule × List φ)}
    (h : Layout fs groups) {g : SourceModule × List φ} (hg : g ∈ groups) :
    fs.filter (fun f => (FragmentKind.key f).modulePath = g.1.path) = g.2 := by
  obtain ⟨before, after, rfl⟩ := List.append_of_mem hg
  have others {l : List (SourceModule × List φ)}
      (ne : ∀ k ∈ l, k.1.path ≠ g.1.path) (sub : l ⊆ before ++ g :: after) :
      (l.flatMap Prod.snd).filter (fun f => (FragmentKind.key f).modulePath = g.1.path) = [] := by
    rw [List.filter_eq_nil_iff]
    intro f hf
    obtain ⟨k, hk, hf⟩ := List.mem_flatMap.mp hf
    rw [h.path k (sub hk) f hf, decide_eq_true_iff]
    exact ne k hk
  have distinct {a b : String} (lt : compare a b = .lt) : a ≠ b := by
    rintro rfl
    rw [Std.ReflOrd.compare_self] at lt
    exact absurd lt (by decide)
  have ⟨_, later, earlier⟩ := List.pairwise_append.mp h.increasing
  have ⟨later, _⟩ := List.pairwise_cons.mp later
  have own : g.2.filter (fun f => (FragmentKind.key f).modulePath = g.1.path) = g.2 := by
    rw [List.filter_eq_self]
    intro f hf
    exact decide_eq_true (h.path g hg f hf)
  rw [← h.flatMap_eq, List.flatMap_append, List.flatMap_cons, List.filter_append,
    List.filter_append, own,
    others (fun k hk => distinct (earlier k hk g (List.mem_cons_self ..)))
      (List.subset_append_left ..),
    others (fun k hk => (distinct (later k hk)).symm)
      (List.subset_append_of_subset_right _ (List.subset_cons_self ..)),
    List.nil_append, List.append_nil]

/-- The modules of the fragments, each with their texts. -/
def written (r : Registry φ) : List WrittenModule :=
  r.byModule.map fun g =>
    ⟨g.1, "\n".intercalate (g.2.map fun f => (FragmentKind.written f).contents)⟩

variable {r : Registry φ}

theorem Keyed.pairwise_written (h : r.Keyed) :
    r.written.Pairwise fun v w => v.home.path ≠ w.home.path := by
  rw [written, List.pairwise_map]
  refine (layout_byModule h).increasing.imp fun {g k} lt same => ?_
  have eq : compare g.1.path k.1.path = .eq := by
    rw [show g.1.path = k.1.path from same]
    exact Std.ReflOrd.compare_self
  rw [lt] at eq
  cases eq

theorem Keyed.exists_of_mem_written (h : r.Keyed) {w : WrittenModule} (hw : w ∈ r.written) :
    ∃ f ∈ r.toList, FragmentKind.home f = w.home := by
  obtain ⟨g, hg, rfl⟩ := List.mem_map.mp hw
  obtain ⟨f, rest, members, home⟩ := exists_head_of_mem_group hg
  rw [← (layout_byModule h).flatMap_eq]
  exact ⟨f, List.mem_flatMap.mpr ⟨g, hg, members ▸ List.mem_cons_self ..⟩, home⟩

theorem Keyed.exists_written (h : r.Keyed) {f : φ} (hf : f ∈ r.toList) :
    ∃ w ∈ r.written, w.home.path = (FragmentKind.home f).path := by
  rw [← (layout_byModule h).flatMap_eq] at hf
  obtain ⟨g, hg, hf⟩ := List.mem_flatMap.mp hf
  exact ⟨_, List.mem_map.mpr ⟨g, hg, rfl⟩, ((layout_byModule h).path g hg f hf).symm⟩

/-- The text of a module is made of the texts of all fragments of its path. -/
theorem Keyed.contents_eq (h : r.Keyed) {w : WrittenModule} (hw : w ∈ r.written) :
    w.contents = "\n".intercalate
      ((r.toList.filter fun f => (FragmentKind.key f).modulePath = w.home.path).map
        fun f => (FragmentKind.written f).contents) := by
  obtain ⟨g, hg, rfl⟩ := List.mem_map.mp hw
  rw [(layout_byModule h).filter_eq hg]

/-- If fragments of one path are of one module, the modules that are written are those of
the fragments that are asked for. -/
theorem exists_home_registered_iff {log : List (Requirement φ)}
    (homed : ∀ f ∈ Requirement.fragments log, ∀ g ∈ Requirement.fragments log,
      (FragmentKind.home f).path = (FragmentKind.home g).path →
        FragmentKind.home f = FragmentKind.home g) {m : SourceModule} :
    (∃ w ∈ (Requirement.registered log).written, w.home = m) ↔
      ∃ f ∈ Requirement.fragments log, FragmentKind.home f = m := by
  have keyed := Requirement.keyed_registered log
  have listed {f : φ} (hf : f ∈ (Requirement.registered log).toList) :
      f ∈ Requirement.fragments log := by
    rw [keyed.mem_toList_iff, Requirement.get?_registered] at hf
    exact Requirement.mem_fragments_iff.mpr (Requirement.mem_of_first hf)
  constructor
  · rintro ⟨w, hw, rfl⟩
    obtain ⟨f, hf, home⟩ := keyed.exists_of_mem_written hw
    exact ⟨f, listed hf, home⟩
  · rintro ⟨f, hf, rfl⟩
    -- What stands first under the fragment's key is written into the fragment's module.
    obtain ⟨g, hg⟩ := Requirement.exists_first (Requirement.mem_fragments_iff.mp hf)
    have key := Requirement.key_of_first hg
    have mem : g ∈ (Requirement.registered log).toList := by
      rw [keyed.mem_toList_iff, Requirement.get?_registered, key]
      exact hg
    obtain ⟨w, hw, path⟩ := keyed.exists_written mem
    obtain ⟨k, hk, home⟩ := keyed.exists_of_mem_written hw
    refine ⟨w, hw, ?_⟩
    rw [← home] at path ⊢
    exact homed k (listed hk) f hf (path.trans (congrArg FragmentKey.modulePath key))

end Registry

/-! ### Shallow fragments -/

namespace FragmentKind

/-- The fragment's script records no error, and the fragment needs no other. -/
structure IsShallow (f : φ) : Prop where
  error : (written f).error = none
  needs : Requirement.fragments (needs f) = []

theorem isShallow_of_asks {f : φ} (body : Writer.Asks (body f) [])
    (extra : Requirement.fragments (extra f) = []) : IsShallow f where
  error := body.error {}
  needs := by
    rw [FragmentKind.needs, Requirement.fragments_append, extra, List.append_nil]
    exact body.fragments {}

end FragmentKind

theorem Requirement.fragments_map_crate (ds : List CrateDependency) :
    fragments (ds.map .crate : List (Requirement Fragment)) = [] := by
  rw [fragments, List.filterMap_map, List.filterMap_eq_nil_iff]
  exact fun _ _ => rfl

/-- A file's text is all that its fragment writes, and crates are all that it needs. -/
theorem Resource.isShallow_fragment (r : Resource) (c : RuntimeConfig) :
    FragmentKind.IsShallow (r.fragment c) :=
  FragmentKind.isShallow_of_asks (Writer.asks_raw r.text)
    (Requirement.fragments_map_crate (r.crates c))

namespace Run

variable {log : List (Requirement φ)} {done : List φ}
  (shallow : ∀ f ∈ Requirement.fragments log, FragmentKind.IsShallow f)

include shallow

theorem fragments_asked (h : ∀ f ∈ done, f ∈ Requirement.fragments log) :
    Requirement.fragments (asked log done) = Requirement.fragments log := by
  have nothing : Requirement.fragments (done.flatMap FragmentKind.needs) = [] := by
    rw [Requirement.fragments_flatMap, List.flatMap_eq_nil_iff]
    exact fun f hf => (shallow f (h f hf)).needs
  rw [asked, Requirement.fragments_append, nothing, List.append_nil]

/-- Only what was asked for at first is written. -/
theorem Chronicle.mem_fragments (h : Chronicle log done) :
    ∀ f ∈ done, f ∈ Requirement.fragments log := by
  induction h with
  | nil => exact fun f hf => by cases hf
  | @snoc done f _ first _ ih =>
    intro g hg
    rcases List.mem_append.mp hg with hg | hg
    · exact ih g hg
    · rw [List.mem_singleton.mp hg, ← fragments_asked shallow ih]
      exact Requirement.mem_fragments_iff.mpr (Requirement.mem_of_first first)

/-- A run that gathers shallow fragments comes to the modules of these. -/
theorem Gathers.finish?_of_shallow {r : Run φ} (h : r.Gathers log)
    {outcome : Except Error RunOutput} (hr : r.finish? = some outcome) :
    ∃ out, outcome = .ok out ∧ out.modules = (Requirement.registered log).written := by
  obtain ⟨o, reaches, rfl⟩ := h.exists_reaches hr
  cases o with
  | error e =>
    obtain ⟨n, f, hf, he⟩ := reaches
    have mem := (chronicle_schedule log n).mem_fragments shallow f hf
    rw [(shallow f mem).error] at he
    cases he
  | ok q =>
    obtain ⟨n, hq, idle⟩ := reaches
    have chronicle := chronicle_schedule log n
    refine ⟨_, rfl, (hq.modules chronicle (hq.perm_toList chronicle idle)).trans ?_⟩
    -- The register is that of what was asked for at first.
    have same : q.run.fragments = Requirement.registered log := by
      have entries : q.run.fragments.entries = (Requirement.registered log).entries := by
        apply SortedMap.ext_find?
        intro k
        refine (hq.run.fragments k).trans (Eq.trans ?_ (Requirement.get?_registered log k).symm)
        rw [Requirement.first, Requirement.first,
          fragments_asked shallow (chronicle.mem_fragments shallow)]
      exact congrArg Registry.mk entries
    rw [same]
    rfl

/-- A run that gathers shallow fragments, and has an outcome, completes. -/
theorem Gathers.exists_completes {r : Run φ} (h : r.Gathers log)
    {outcome : Except Error RunOutput} (hr : r.finish? = some outcome) :
    ∃ out members, outcome = .ok out ∧ Completes log members out := by
  rcases h.finish? hr with ⟨e, n, f, hf, _, he⟩ | completes
  · have mem := (chronicle_schedule log n).mem_fragments shallow f hf
    rw [(shallow f mem).error] at he
    cases he
  · exact completes

omit shallow in
/-- What was asked for first under its key is written. -/
theorem Completes.mem_of_first {members : List φ} {out : RunOutput}
    (h : Completes log members out) {f : φ}
    (hf : Requirement.first log (FragmentKind.key f) = some f) : f ∈ members := by
  obtain ⟨g, hg, key⟩ := h.least.1.asked f (Requirement.mem_of_first hf)
  have written := h.first g hg
  rw [key, asked, Requirement.first_append_of_first hf, Option.some_inj] at written
  exact written ▸ hg

end Run

theorem Run.Gathers.finish_of_shallow {r : Run Fragment} {log : List (Requirement Fragment)}
    (h : r.Gathers log)
    (shallow : ∀ f ∈ Requirement.fragments log, FragmentKind.IsShallow f) :
    ∃ out, r.finish = .ok out ∧ out.modules = (Requirement.registered log).written :=
  h.finish?_of_shallow shallow r.finish?_eq_some_finish

end Cratewright
