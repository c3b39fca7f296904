/-
Listings of identifiers are in the order of their texts.

What a model answers with identifiers, it answers in their order: the keys of a map stand in order,
and so does what is left of them. Identifiers that are read from texts have the order of the texts,
and every identifier of a model that is read from a document is read from a text:

* `Model.Listing` — the answers;
* `Model.Listing.sorted` — they are in the order of identifiers;
* `Model.Listing.isValid` — all that they list was read;
* `Model.listing_text_order` — they are in the order of texts, and so are supported protocols.
-/
import Cratewright.Proofs.Model.Reachability
import Cratewright.Proofs.Model.RoundTrip
import Cratewright.Proofs.Model.Traits
import Cratewright.Proofs.ShapeId.Order
import Cratewright.Protocol.Loader

namespace Cratewright

/-! ### Parts that were read -/

theorem Traits.IsStored.isValid_of_mem_keys {depth : Nat} {traits : Traits}
    (stored : Traits.IsStored depth traits) : ∀ t ∈ traits.keys, t.IsValid := by
  intro t ht
  obtain ⟨e, he, rfl⟩ := List.mem_map.mp ht
  exact (stored e he).1

theorem Shape.isValid_of_mem_knownTraits {depth : Nat} {s : Shape} (stored : s.IsStored depth) :
    ∀ t ∈ s.knownTraits.keys, t.IsValid := by
  cases s with
  | service s => exact Traits.IsStored.isValid_of_mem_keys (ServiceShape.IsStored.traits stored)
  | resource s => exact Traits.IsStored.isValid_of_mem_keys (ResourceShape.IsStored.traits stored)
  | operation s =>
    exact Traits.IsStored.isValid_of_mem_keys (OperationShape.IsStored.traits stored)
  | struct s => exact Traits.IsStored.isValid_of_mem_keys (StructureShape.IsStored.traits stored)
  | other => exact fun t ht => absurd ht List.not_mem_nil

theorem ResourceShape.IsStored.isValid_of_mem {depth : Nat} {s : ResourceShape}
    (stored : s.IsStored depth) : ∀ o ∈ s.allOperations, o.IsValid := by
  intro o ho
  cases ResourceShape.mem_allOperations_iff.mp ho with
  | create h => exact stored.create o h
  | put h => exact stored.put o h
  | read h => exact stored.read o h
  | update h => exact stored.update o h
  | delete h => exact stored.delete o h
  | list h => exact stored.list o h
  | instances h => exact stored.operations o h
  | collection h => exact stored.collectionOperations o h

namespace Model

/-! ### Listings -/

/-- The answers of a model that list identifiers. -/
inductive Listing (m : Model) : List ShapeId → Prop where
  | services : Listing m m.serviceIds
  | traits {id : ShapeId} {ids : List ShapeId} : m.traits id = .ok ids → Listing m ids
  | operations {service : ShapeId} {ids : List ShapeId} :
      m.operations service = .ok ids → Listing m ids
  | protocols {service : ShapeId} {ids : List ShapeId} :
      m.serviceProtocols service = .ok ids → Listing m ids

variable {m : Model} {id service : ShapeId} {ids : List ShapeId} {depth : Nat}

theorem serviceIds_sublist (m : Model) : m.serviceIds.Sublist m.shapes.keys :=
  (List.filter_sublist ..).map _

theorem mem_serviceIds_iff : id ∈ m.serviceIds ↔ m.IsService id := by
  rw [serviceIds, List.mem_map]
  constructor
  · rintro ⟨⟨_, shape⟩, mem, rfl⟩
    obtain ⟨mem, service⟩ := List.mem_filter.mp mem
    cases shape with
    | service s => exact ⟨s, SortedMap.find?_eq_some_iff.mpr mem⟩
    | _ => cases service
  · rintro ⟨s, hs⟩
    exact ⟨_, List.mem_filter.mpr ⟨SortedMap.find?_eq_some_iff.mp hs, rfl⟩, rfl⟩

theorem Listing.sorted (h : m.Listing ids) : ids.Pairwise fun a b => compare a b = .lt := by
  cases h with
  | services => exact m.shapes.pairwise_keys.sublist m.serviceIds_sublist
  | traits h => exact pairwise_traits h
  | @operations service _ h =>
    rcases m.resolves_or_dangles service with ⟨_, same, -, sorted⟩ | ⟨_, same, -⟩
    · rw [h] at same
      cases same
      exact sorted
    · rw [h] at same
      cases same
  | protocols h => exact pairwise_serviceProtocols h

section Stored

variable (stored : m.IsStored depth)

include stored

theorem IsStored.of_find? {s : Shape} (h : m.shapes.find? id = some s) :
    id.IsValid ∧ s.IsStored depth :=
  stored (id, s) (SortedMap.find?_eq_some_iff.mp h)

theorem IsStored.isValid_of_hasOperation {o : ShapeId} (h : m.HasOperation service o) :
    o.IsValid := by
  obtain ⟨s, hs, own | ⟨r, t, -, ht, below⟩⟩ := h
  · exact ServiceShape.IsStored.operations (stored.of_find? hs).2 o own
  · exact ResourceShape.IsStored.isValid_of_mem (stored.of_find? ht).2 o below

/-- A model in which all was read lists what was read. -/
theorem Listing.isValid (h : m.Listing ids) : ∀ id ∈ ids, id.IsValid := by
  intro id hid
  cases h with
  | services =>
    obtain ⟨s, hs⟩ := SortedMap.mem_keys_iff.mp (m.serviceIds_sublist.subset hid)
    exact (stored.of_find? hs).1
  | traits h =>
    obtain ⟨s, hs, rfl⟩ := traits_eq_ok_iff.mp h
    exact Shape.isValid_of_mem_knownTraits (stored.of_find? hs).2 id hid
  | operations h => exact stored.isValid_of_hasOperation ((mem_operations_iff h).mp hid)
  | protocols h =>
    obtain ⟨⟨s, hs, mem⟩, -⟩ := (mem_serviceProtocols_iff h).mp hid
    exact Shape.isValid_of_mem_knownTraits (stored.of_find? hs).2 id mem

end Stored

/-! ### The order of texts -/

theorem pairwise_text_of_isValid (sorted : ids.Pairwise fun a b => compare a b = .lt)
    (valid : ∀ id ∈ ids, id.IsValid) : ids.Pairwise fun a b => a.text < b.text :=
  ShapeId.pairwise_text sorted fun id hid => ShapeId.isValid_iff.mp (valid id hid)

theorem isValid_of_mem_supported {target : Target} :
    ∀ id ∈ (ProtocolLoader.forTarget target).supported, id.IsValid := by
  intro id hid
  obtain ⟨f, hf⟩ := SortedMap.mem_keys_iff.mp hid
  obtain ⟨g, hg, same⟩ := List.mem_map.mp (SortedMap.mem_of_find?_ofList hf)
  cases same
  simp only [List.mem_cons, List.not_mem_nil, or_false] at hg
  cases target
  all_goals
    rcases hg with rfl | rfl | rfl | rfl
  all_goals
    show ShapeId.parse _ = _
    decide +kernel

/-- Identifiers that are read have the order of their texts. So the identifiers that a model lists,
or a loader, are in the order of texts if they were read: those of every model that is read from a
document were, and so were the protocols that are usually supported. -/
theorem listing_text_order :
    (∀ s t a b, ShapeId.parse s = .ok a → ShapeId.parse t = .ok b →
      (compare a b = .lt ↔ a.text < b.text)) ∧
    (∀ m ids, Listing m ids → (∀ id ∈ ids, id.IsValid) →
      ids.Pairwise fun a b => a.text < b.text) ∧
    (∀ document m ids, parse document = .ok m → m.Listing ids →
      ids.Pairwise fun a b => a.text < b.text) ∧
    (∀ l : ProtocolLoader, (∀ id ∈ l.supported, id.IsValid) →
      l.supported.Pairwise fun a b => a.text < b.text) ∧
    ∀ target, (ProtocolLoader.forTarget target).supported.Pairwise fun a b => a.text < b.text := by
  refine ⟨?_, ?_, ?_, ?_, ?_⟩
  · intro s t a b ha hb
    exact ShapeId.compare_text (ShapeId.parse_eq_ok_iff.mp ha).1 (ShapeId.parse_eq_ok_iff.mp hb).1
  · intro m ids h valid
    exact pairwise_text_of_isValid h.sorted valid
  · intro document m ids read h
    exact pairwise_text_of_isValid h.sorted (h.isValid (isStored_of_parse read))
  · intro l valid
    exact pairwise_text_of_isValid l.families.pairwise_keys valid
  · intro target
    exact pairwise_text_of_isValid (ProtocolLoader.forTarget target).families.pairwise_keys
      isValid_of_mem_supported

/-- Two services; the namespace of one is a prefix of that of the other. -/
def clocksModel : Model where
  shapes := SortedMap.ofList [
    (⟨"time.zone", "Clock", none⟩, .service {}),
    (⟨"time", "Clock", none⟩, .service {})]

def clocksDocument : String := Text.ofLines [
  "\x7b\"smithy\":\"2.0\",\"shapes\":\x7b\"time.zone#Clock\":\x7b\"type\":\"service\"\x7d,",
  "\"time#Clock\":\x7b\"type\":\"service\"\x7d\x7d\x7d"]

theorem listing_text_order_clocks :
    parse clocksDocument = .ok clocksModel ∧
      clocksModel.serviceIds = [⟨"time", "Clock", none⟩, ⟨"time.zone", "Clock", none⟩] ∧
      (clocksModel.serviceIds.Pairwise fun a b => a.text < b.text) ∧
      ShapeId.parse "time#Clock" = .ok ⟨"time", "Clock", none⟩ ∧
      ShapeId.parse "time.zone#Clock" = .ok ⟨"time.zone", "Clock", none⟩ ∧
      "time#Clock" < "time.zone#Clock" ∧
      (ProtocolLoader.forTarget .client).supported.Pairwise fun a b => a.text < b.text := by
  have read : parse clocksDocument = .ok clocksModel :=
    Except.eq_ok_of_toOption (by decide +kernel)
  have time : ShapeId.parse "time#Clock" = .ok ⟨"time", "Clock", none⟩ := by decide +kernel
  have zone : ShapeId.parse "time.zone#Clock" = .ok ⟨"time.zone", "Clock", none⟩ := by
    decide +kernel
  obtain ⟨order, -, listed, supported, -⟩ := listing_text_order
  refine ⟨read, by decide +kernel, listed _ _ _ read .services, time, zone, ?_, ?_⟩
  · exact (order _ _ _ _ time zone).mp (by decide +kernel)
  · exact supported _ isValid_of_mem_supported

end Model

end Cratewright
