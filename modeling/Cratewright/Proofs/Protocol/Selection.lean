/-
The protocol of a service.

Three lists decide which protocol is chosen: the traits of the service, the shapes that define
traits as protocols, and the families of the loader. Of the protocols that the service declares
and the loader supports, the least is chosen, wherever they stand in the model. Without one, the
report lists both kinds:

* `ProtocolLoader.Selects` — what a choice comes to;
* `ProtocolLoader.selects_select` — every choice comes to one of these outcomes;
* `ProtocolLoader.Selects.unique` — and to one only.
-/
import Cratewright.Proofs.Model.Traits
import Cratewright.Protocol.Loader

namespace Cratewright

/-! ### Lists in order -/

/-- The identifiers with a property, each listed once and in order. -/
structure ShapeId.Lists (ids : List ShapeId) (P : ShapeId → Prop) : Prop where
  sorted : ids.Pairwise fun a b => compare a b = .lt
  mem_iff : ∀ id, id ∈ ids ↔ P id

theorem ShapeId.Lists.unique {ids others : List ShapeId} {P : ShapeId → Prop} (h : Lists ids P)
    (h' : Lists others P) : ids = others := by
  have nodup {as : List ShapeId} (sorted : as.Pairwise fun a b => compare a b = .lt) : as.Nodup :=
    sorted.imp fun lt same => by
      rw [same, Std.ReflOrd.compare_self] at lt
      cases lt
  refine List.Perm.eq_of_pairwise ?_ h.sorted h'.sorted ?_
  · exact fun a b _ _ lt gt => absurd gt (Std.OrientedCmp.not_lt_of_lt lt)
  · rw [List.perm_ext_iff_of_nodup (nodup h.sorted) (nodup h'.sorted)]
    exact fun id => (h.mem_iff id).trans (h'.mem_iff id).symm

theorem Model.lists_serviceProtocols {m : Model} {service : ShapeId} {ids : List ShapeId}
    (h : m.serviceProtocols service = .ok ids) : ShapeId.Lists ids (m.Declares service) :=
  ⟨pairwise_serviceProtocols h, fun _ => mem_serviceProtocols_iff h⟩

theorem Model.serviceProtocols_of_find?_none {m : Model} {service : ShapeId}
    (h : m.shapes.find? service = none) :
    m.serviceProtocols service = .error (.unknownShape service.text) := by
  rw [serviceProtocols, Model.traits, shape, h]
  rfl

namespace ProtocolLoader

variable {l : ProtocolLoader} {m : Model} {service id : ShapeId} {f : ProtocolFamily}

/-- The loader has a family for the protocol. -/
def Supports (l : ProtocolLoader) (id : ShapeId) : Prop := ∃ f, l.families.find? id = some f

theorem lists_supported (l : ProtocolLoader) : ShapeId.Lists l.supported l.Supports :=
  ⟨l.families.pairwise_keys, fun _ => SortedMap.mem_keys_iff⟩

/-! ### The choice -/

/-- A protocol that is declared and supported, and is before all others that are. -/
structure IsFirst (l : ProtocolLoader) (m : Model) (service id : ShapeId) (f : ProtocolFamily) :
    Prop where
  declared : m.Declares service id
  family : l.families.find? id = some f
  least : ∀ other, m.Declares service other → l.Supports other → other ≠ id →
    compare id other = .lt

/-- What the choice of a protocol for a service comes to. -/
inductive Selects (l : ProtocolLoader) (m : Model) (service : ShapeId) :
    Except Error (ShapeId × ProtocolFamily) → Prop where
  | chosen {id : ShapeId} {f : ProtocolFamily} : l.IsFirst m service id f →
      Selects l m service (.ok (id, f))
  | unknown : m.shapes.find? service = none →
      Selects l m service (.error (.unknownShape service.text))
  | unsupported {s : Shape} {declared supported : List ShapeId} :
      m.shapes.find? service = some s → (∀ id, m.Declares service id → ¬ l.Supports id) →
      ShapeId.Lists declared (m.Declares service) → ShapeId.Lists supported l.Supports →
      Selects l m service (.error (.unsupportedProtocol service declared supported))

/-- The first of sorted protocols that is supported is the least that is. -/
theorem least_of_firstSupported? {ids : List ShapeId}
    (sorted : ids.Pairwise fun a b => compare a b = .lt)
    (h : l.firstSupported? ids = some (id, f)) :
    id ∈ ids ∧ l.families.find? id = some f ∧
      ∀ other ∈ ids, l.Supports other → other ≠ id → compare id other = .lt := by
  obtain ⟨before, first, after, rfl, found, skipped⟩ := List.findSome?_eq_some_iff.mp h
  obtain ⟨g, hg, same⟩ := Option.map_eq_some_iff.mp found
  cases same
  refine ⟨by simp, hg, fun other mem supported ne => ?_⟩
  rcases List.mem_append.mp mem with mem | mem
  · -- What stands before the first is not supported.
    obtain ⟨g', hg'⟩ := supported
    have unsupported := skipped other mem
    rw [hg'] at unsupported
    cases unsupported
  · have later := (List.mem_cons.mp mem).resolve_left ne
    exact (List.pairwise_cons.mp (List.pairwise_append.mp sorted).2.1).1 other later

theorem not_supports_of_firstSupported? {ids : List ShapeId} (h : l.firstSupported? ids = none) :
    ∀ id ∈ ids, ¬ l.Supports id := by
  rintro id mem ⟨g, hg⟩
  have unsupported := List.findSome?_eq_none_iff.mp h id mem
  rw [hg] at unsupported
  cases unsupported

theorem selects_select (l : ProtocolLoader) (m : Model) (service : ShapeId) :
    l.Selects m service (l.select m service) := by
  rw [select]
  cases hs : m.shapes.find? service with
  | none =>
    rw [Model.serviceProtocols_of_find?_none hs]
    exact .unknown hs
  | some s =>
    have protocols : m.serviceProtocols service
        = .ok (s.knownTraits.keys.filter m.isProtocol) :=
      Model.serviceProtocols_eq_ok_iff.mpr ⟨_, Model.traits_eq_ok_iff.mpr ⟨s, hs, rfl⟩, rfl⟩
    have declared := Model.lists_serviceProtocols protocols
    rw [protocols]
    cases first : l.firstSupported? (s.knownTraits.keys.filter m.isProtocol) with
    | some chosen =>
      simp only [bind, Except.bind, first]
      obtain ⟨mem, family, least⟩ := least_of_firstSupported? declared.sorted first
      refine .chosen ⟨(declared.mem_iff _).mp mem, family, fun other declares => ?_⟩
      exact least other ((declared.mem_iff other).mpr declares)
    | none =>
      simp only [bind, Except.bind, first]
      refine .unsupported hs (fun id declares => ?_) declared l.lists_supported
      exact not_supports_of_firstSupported? first id ((declared.mem_iff id).mpr declares)

theorem IsFirst.unique {id' : ShapeId} {f' : ProtocolFamily} (h : l.IsFirst m service id f)
    (h' : l.IsFirst m service id' f') : id = id' ∧ f = f' := by
  have same : id = id' := by
    by_contra ne
    have lt := h.least id' h'.declared ⟨f', h'.family⟩ (Ne.symm ne)
    exact Std.OrientedCmp.not_lt_of_lt lt (h'.least id h.declared ⟨f, h.family⟩ ne)
  subst same
  exact ⟨rfl, Option.some.inj (h.family.symm.trans h'.family)⟩

theorem Selects.unique {outcome other : Except Error (ShapeId × ProtocolFamily)}
    (h : l.Selects m service outcome) (h' : l.Selects m service other) : outcome = other := by
  cases h with
  | chosen first =>
    obtain ⟨s, hs, -⟩ := first.declared.1
    cases h' with
    | chosen first' =>
      obtain ⟨rfl, rfl⟩ := first.unique first'
      rfl
    | unknown none =>
      rw [hs] at none
      cases none
    | unsupported _ none => exact absurd ⟨_, first.family⟩ (none _ first.declared)
  | unknown none =>
    cases h' with
    | chosen first =>
      obtain ⟨s, hs, -⟩ := first.declared.1
      rw [hs] at none
      cases none
    | unknown => rfl
    | unsupported hs =>
      rw [hs] at none
      cases none
  | unsupported hs none declared supported =>
    cases h' with
    | chosen first => exact absurd ⟨_, first.family⟩ (none _ first.declared)
    | unknown absent =>
      rw [hs] at absent
      cases absent
    | unsupported _ _ declared' supported' =>
      rw [declared.unique declared', supported.unique supported']

theorem select_eq_iff {outcome : Except Error (ShapeId × ProtocolFamily)} :
    l.select m service = outcome ↔ l.Selects m service outcome := by
  constructor
  · rintro rfl
    exact l.selects_select m service
  · exact (l.selects_select m service).unique

end ProtocolLoader

end Cratewright
