/-
The traits of shapes, and the protocols among them.

What a model answers about traits, it answers from the one map of the shape. A shape of another
type has none there. The protocols of a service are those of its traits that are known as
protocols, or that are defined as one by a shape of the model:

* `Model.traits_eq_ok_iff`, `Model.hasTrait_iff` — the traits of a shape;
* `Model.isProtocol_iff`, `Model.mem_serviceProtocols_iff` — protocols;
* `Model.pairwise_traits`, `Model.pairwise_serviceProtocols` — both are listed in order.
-/
import Cratewright.Model
import Cratewright.Outcome
import Cratewright.Proofs.SortedMap

namespace Cratewright

theorem SortedMap.pairwise_keys {κ ν : Type} [Ord κ] (m : SortedMap κ ν) :
    m.keys.Pairwise fun a b => compare a b = .lt :=
  List.pairwise_map.mpr m.sorted

/-- The traits of a shape that are known. -/
def Shape.knownTraits (s : Shape) : Traits := s.traits?.getD ∅

namespace Model

variable {m : Model} {id service t : ShapeId} {ids : List ShapeId}

theorem shape_eq_ok_iff {s : Shape} : m.shape id = .ok s ↔ m.shapes.find? id = some s := by
  rw [shape]
  cases m.shapes.find? id <;> simp

theorem traits_eq_ok_iff :
    m.traits id = .ok ids ↔ ∃ s, m.shapes.find? id = some s ∧ s.knownTraits.keys = ids := by
  have keys (s : Shape) : (s.traits?.map SortedMap.keys).getD [] = s.knownTraits.keys := by
    rw [Shape.knownTraits]
    cases s.traits? <;> rfl
  rw [Model.traits, Except.bind_eq_ok_iff]
  simp only [shape_eq_ok_iff, keys, pure, Except.pure, Except.ok.injEq]

theorem traitValue?_eq_some_iff {v : Json} :
    m.traitValue? id t = some v ↔
      ∃ s, m.shapes.find? id = some s ∧ s.knownTraits.find? t = some v := by
  have found (s : Shape) : (do (← s.traits?).find? t) = s.knownTraits.find? t := by
    rw [Shape.knownTraits]
    cases s.traits? <;> rfl
  rw [traitValue?, Option.bind_eq_bind, Option.bind_eq_some_iff]
  simp only [found]

theorem hasTrait_iff :
    m.hasTrait id t = true ↔ ∃ s, m.shapes.find? id = some s ∧ t ∈ s.knownTraits.keys := by
  rw [hasTrait, Option.isSome_iff_exists]
  simp only [traitValue?_eq_some_iff, SortedMap.mem_keys_iff]
  constructor
  · rintro ⟨v, s, hs, hv⟩
    exact ⟨s, hs, v, hv⟩
  · rintro ⟨s, hs, v, hv⟩
    exact ⟨v, s, hs, hv⟩

theorem pairwise_traits (h : m.traits id = .ok ids) :
    ids.Pairwise fun a b => compare a b = .lt := by
  obtain ⟨s, -, rfl⟩ := traits_eq_ok_iff.mp h
  exact s.knownTraits.pairwise_keys

/-! ### Protocols -/

/-- A protocol that needs no definition. -/
def IsKnownProtocol (t : ShapeId) : Prop := t.space = protocolSpace ∧ t.name ∈ knownProtocols

/-- The shape of a trait defines it as a protocol. -/
def DefinesProtocol (m : Model) (t : ShapeId) : Prop :=
  ∃ s, m.shapes.find? t = some s ∧ protocolDefinitionTrait ∈ s.knownTraits.keys

theorem isProtocol_iff : m.isProtocol t = true ↔ IsKnownProtocol t ∨ m.DefinesProtocol t := by
  rw [isProtocol, Bool.or_eq_true, Bool.and_eq_true, beq_iff_eq, List.contains_iff_mem,
    hasTrait_iff]
  rfl

theorem serviceProtocols_eq_ok_iff :
    m.serviceProtocols service = .ok ids ↔
      ∃ traits, m.traits service = .ok traits ∧ traits.filter m.isProtocol = ids := by
  rw [serviceProtocols, Except.bind_eq_ok_iff]
  simp only [pure, Except.pure, Except.ok.injEq]

/-- A service declares a protocol as one of its traits. -/
def Declares (m : Model) (service t : ShapeId) : Prop :=
  (∃ s, m.shapes.find? service = some s ∧ t ∈ s.knownTraits.keys) ∧
    (IsKnownProtocol t ∨ m.DefinesProtocol t)

theorem mem_serviceProtocols_iff (h : m.serviceProtocols service = .ok ids) :
    t ∈ ids ↔ m.Declares service t := by
  obtain ⟨traits, ht, rfl⟩ := serviceProtocols_eq_ok_iff.mp h
  obtain ⟨s, hs, rfl⟩ := traits_eq_ok_iff.mp ht
  rw [List.mem_filter, isProtocol_iff]
  constructor
  · rintro ⟨mem, protocol⟩
    exact ⟨⟨s, hs, mem⟩, protocol⟩
  · rintro ⟨⟨s', hs', mem⟩, protocol⟩
    cases hs.symm.trans hs'
    exact ⟨mem, protocol⟩

theorem pairwise_serviceProtocols (h : m.serviceProtocols service = .ok ids) :
    ids.Pairwise fun a b => compare a b = .lt := by
  obtain ⟨traits, ht, rfl⟩ := serviceProtocols_eq_ok_iff.mp h
  exact (pairwise_traits ht).filter _

end Model

end Cratewright
