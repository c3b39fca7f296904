/-
Modules of a register.

Fragments are laid out if groups of them make up the whole, each group holds the fragments
of one module path, and the paths strictly increase:

* `Registry.layout_group` — grouping neighbours lays out fragments that stand in key order;
* `Registry.layout_byModule` — the modules of a register lay out its fragments.
-/
import Cratewright.Proofs.SortedMap
import Cratewright.Source.Registry

namespace Cratewright

namespace Registry

variable {φ : Type} [FragmentKind φ]

/-- The groups hold the given fragments, each once, in modules of strictly increasing
paths. -/
structure Layout (fs : List φ) (groups : List (SourceModule × List φ)) : Prop where
  flatMap_eq : groups.flatMap Prod.snd = fs
  nonempty : ∀ g ∈ groups, g.2 ≠ []
  path : ∀ g ∈ groups, ∀ f ∈ g.2, (FragmentKind.key f).modulePath = g.1.path
  increasing : groups.Pairwise fun g h => compare g.1.path h.1.path = .lt

theorem group_cons_of_nil {f : φ} {fs : List φ} (h : group fs = []) :
    group (f :: fs) = [(FragmentKind.home f, [f])] := by
  rw [group, h]

theorem group_cons_of_cons {f : φ} {fs members : List φ} {next : SourceModule}
    {groups : List (SourceModule × List φ)} (h : group fs = (next, members) :: groups) :
    group (f :: fs) =
      if (FragmentKind.home f).path = next.path then
        (FragmentKind.home f, f :: members) :: groups
      else (FragmentKind.home f, [f]) :: (next, members) :: groups := by
  rw [group, h]

/-- The path of an earlier key is that of the later or stands before it. -/
theorem compare_path_of_lt {a b : FragmentKey} (h : compare a b = .lt)
    (ne : a.modulePath ≠ b.modulePath) : compare a.modulePath b.modulePath = .lt := by
  have h : (compare a.modulePath b.modulePath).then (compare a.name b.name) = .lt := h
  rcases Ordering.then_eq_lt.mp h with lt | ⟨eq, _⟩
  · exact lt
  · exact absurd (Std.LawfulEqOrd.eq_of_compare eq) ne

/-- Keys of one path are told apart by their names. -/
theorem compare_same_path (path a b : String) :
    compare (⟨path, a⟩ : FragmentKey) ⟨path, b⟩ = compare a b := by
  show (compare path path).then (compare a b) = _
  rw [Std.ReflOrd.compare_self]
  rfl

variable {f : φ} {fs members : List φ} {next : SourceModule}
  {groups : List (SourceModule × List φ)}

/-- A fragment joins the first group if that is of its path. -/
theorem Layout.join (h : Layout fs ((next, members) :: groups))
    (same : (FragmentKind.home f).path = next.path) :
    Layout (f :: fs) ((FragmentKind.home f, f :: members) :: groups) := by
  have ⟨hnext, later⟩ := List.pairwise_cons.mp h.increasing
  constructor
  case flatMap_eq => exact congrArg (f :: ·) h.flatMap_eq
  case nonempty =>
    rw [List.forall_mem_cons]
    exact ⟨List.cons_ne_nil _ _, fun g hg => h.nonempty g (List.mem_cons_of_mem _ hg)⟩
  case path =>
    rw [List.forall_mem_cons, List.forall_mem_cons]
    refine ⟨⟨rfl, fun a ha => ?_⟩, fun g hg => h.path g (List.mem_cons_of_mem _ hg)⟩
    exact (h.path _ (List.mem_cons_self ..) a ha).trans same.symm
  case increasing =>
    refine List.pairwise_cons.mpr ⟨fun g hg => ?_, later⟩
    show compare (FragmentKind.home f).path g.1.path = .lt
    rw [same]
    exact hnext g hg

/-- A fragment starts a group if its path stands before all others. -/
theorem Layout.start (h : Layout fs groups)
    (before : ∀ g ∈ groups, compare (FragmentKind.home f).path g.1.path = .lt) :
    Layout (f :: fs) ((FragmentKind.home f, [f]) :: groups) := by
  constructor
  case flatMap_eq => exact congrArg (f :: ·) h.flatMap_eq
  case nonempty =>
    rw [List.forall_mem_cons]
    exact ⟨List.cons_ne_nil _ _, h.nonempty⟩
  case path =>
    rw [List.forall_mem_cons, List.forall_mem_singleton]
    exact ⟨rfl, h.path⟩
  case increasing => exact List.pairwise_cons.mpr ⟨before, h.increasing⟩

/-- A fragment of the least key that is not of the path of the first group stands before all
groups. -/
theorem Layout.before (h : Layout fs ((next, members) :: groups))
    (first : ∀ a ∈ fs, compare (FragmentKind.key f) (FragmentKind.key a) = .lt)
    (ne : (FragmentKind.home f).path ≠ next.path) :
    ∀ g ∈ (next, members) :: groups, compare (FragmentKind.home f).path g.1.path = .lt := by
  have ⟨hnext, _⟩ := List.pairwise_cons.mp h.increasing
  -- The first member of the next group tells how the paths compare.
  have lt : compare (FragmentKind.home f).path next.path = .lt := by
    obtain ⟨a, ha⟩ := List.exists_mem_of_ne_nil _ (h.nonempty _ (List.mem_cons_self ..))
    have hpath := h.path _ (List.mem_cons_self ..) a ha
    have mem : a ∈ fs := by
      rw [← h.flatMap_eq]
      exact List.mem_append_left _ ha
    rw [← hpath]
    exact compare_path_of_lt (first a mem) fun same => ne (same.trans hpath)
  rw [List.forall_mem_cons]
  exact ⟨lt, fun g hg => Std.TransCmp.lt_trans lt (hnext g hg)⟩

theorem layout_group : ∀ {fs : List φ},
    (fs.Pairwise fun a b => compare (FragmentKind.key a) (FragmentKind.key b) = .lt) →
      Layout fs (group fs)
  | [], _ => ⟨rfl, by simp [group], by simp [group], .nil⟩
  | f :: fs, sorted => by
    have ⟨first, rest⟩ := List.pairwise_cons.mp sorted
    have ih := layout_group rest
    cases hgroup : group fs with
    | nil =>
      rw [hgroup] at ih
      rw [group_cons_of_nil hgroup]
      exact ih.start fun g hg => by cases hg
    | cons g groups =>
      obtain ⟨next, members⟩ := g
      rw [hgroup] at ih
      rw [group_cons_of_cons hgroup]
      by_cases same : (FragmentKind.home f).path = next.path
      · rw [if_pos same]
        exact ih.join same
      · rw [if_neg same]
        exact ih.start (ih.before first same)

/-- Every fragment stands under its own key. -/
def Keyed (r : Registry φ) : Prop := ∀ k f, r.get? k = some f → FragmentKind.key f = k

variable {r : Registry φ}

theorem Keyed.mem_toList_iff (h : r.Keyed) {f : φ} :
    f ∈ r.toList ↔ r.get? (FragmentKind.key f) = some f :=
  SortedMap.mem_values_iff_own h

theorem Keyed.pairwise_toList (h : r.Keyed) :
    r.toList.Pairwise fun a b => compare (FragmentKind.key a) (FragmentKind.key b) = .lt :=
  SortedMap.pairwise_values h

theorem Keyed.nodup_keys (h : r.Keyed) : (r.toList.map FragmentKind.key).Nodup := by
  rw [List.Nodup, List.pairwise_map]
  refine h.pairwise_toList.imp fun {a b} lt same => ?_
  rw [same, Std.ReflOrd.compare_self] at lt
  exact absurd lt (by decide)

/-- The modules of a register lay out its fragments. -/
theorem layout_byModule (h : r.Keyed) : Layout r.toList r.byModule :=
  layout_group h.pairwise_toList

end Registry

end Cratewright
