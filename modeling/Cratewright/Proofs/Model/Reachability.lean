/-
The operations of a service as what can be reached in a graph.

The resources of a model are the nodes of a graph whose edges lead to child resources. The graph
may have cycles, and edges may lead to shapes that are no resources or that do not exist:

* `Model.exists_ends` — a walk comes to an end, and looks at no edge of the graph twice;
* `Model.Ends.leadsTo` — a walk that fails has been led to a shape that is no resource;
* `Model.Walks.isResource_of_leadsTo` — one that succeeds has been led to resources only;
* `Model.operations_reach` — what becomes of the search for the operations of a service.
-/
import Mathlib.Algebra.BigOperators.Group.List.Basic
import Mathlib.Algebra.GroupWithZero.Nat
import Mathlib.Algebra.Order.BigOperators.Group.List
import Cratewright.Proofs.Model.Operations

namespace Cratewright

/-- An operation is bound to a resource at a stage of its life, to its instances, or to the
collection of them. -/
inductive ResourceShape.Binds (s : ResourceShape) (o : ShapeId) : Prop where
  | create (h : s.create = some o)
  | put (h : s.put = some o)
  | read (h : s.read = some o)
  | update (h : s.update = some o)
  | delete (h : s.delete = some o)
  | list (h : s.list = some o)
  | instances (h : o ∈ s.operations)
  | collection (h : o ∈ s.collectionOperations)

theorem ResourceShape.mem_allOperations_iff {s : ResourceShape} {o : ShapeId} :
    o ∈ s.allOperations ↔ s.Binds o := by
  simp only [allOperations, List.mem_append, List.mem_filterMap, id, List.mem_cons,
    List.not_mem_nil, or_false, exists_eq_right]
  constructor
  · rintro (((h | h | h | h | h | h) | h) | h)
    · exact .create h.symm
    · exact .put h.symm
    · exact .read h.symm
    · exact .update h.symm
    · exact .delete h.symm
    · exact .list h.symm
    · exact .instances h
    · exact .collection h
  · intro h
    cases h <;> simp_all

namespace Model

variable {m : Model}

/-! ### What the shapes of a model refer to -/

def IsResource (m : Model) (id : ShapeId) : Prop := ∃ s, m.shapes.find? id = some (.resource s)

def IsService (m : Model) (id : ShapeId) : Prop := ∃ s, m.shapes.find? id = some (.service s)

/-- A shape is a service, and its resources lead to resources only. -/
def Resolves (m : Model) (service : ShapeId) : Prop :=
  ∃ s, m.shapes.find? service = some (.service s) ∧ ∀ r, m.LeadsTo s.resources r → m.IsResource r

/-- What keeps a service from being resolved: it is no service itself, or its resources lead to a
shape that is no resource. -/
inductive Dangles (m : Model) (service : ShapeId) : ShapeId → Prop where
  | service (h : ¬ m.IsService service) : Dangles m service service
  | resource {s : ServiceShape} {r : ShapeId} (hs : m.shapes.find? service = some (.service s))
      (hr : m.LeadsTo s.resources r) (h : ¬ m.IsResource r) : Dangles m service r

/-- The operations that are bound to a service, or to a resource that its resources lead to. -/
inductive Offers (m : Model) (service o : ShapeId) : Prop where
  | own {s : ServiceShape} (hs : m.shapes.find? service = some (.service s))
      (ho : o ∈ s.operations)
  | below {s : ServiceShape} {r : ShapeId} {t : ResourceShape}
      (hs : m.shapes.find? service = some (.service s)) (hr : m.LeadsTo s.resources r)
      (ht : m.shapes.find? r = some (.resource t)) (ho : t.Binds o)

theorem offers_iff {service o : ShapeId} : m.Offers service o ↔ m.HasOperation service o := by
  constructor
  · intro h
    cases h with
    | own hs ho => exact ⟨_, hs, .inl ho⟩
    | below hs hr ht ho =>
      exact ⟨_, hs, .inr ⟨_, _, hr, ht, ResourceShape.mem_allOperations_iff.mpr ho⟩⟩
  · rintro ⟨s, hs, ho | ⟨r, t, hr, ht, ho⟩⟩
    · exact .own hs ho
    · exact .below hs hr ht (ResourceShape.mem_allOperations_iff.mp ho)

theorem Dangles.not_resolves {service id : ShapeId} (h : m.Dangles service id) :
    ¬ m.Resolves service := by
  rintro ⟨s, hs, resources⟩
  cases h with
  | service h => exact h ⟨s, hs⟩
  | resource hs' hr h =>
    cases hs.symm.trans hs'
    exact h (resources _ hr)

/-! ### Walks come to an end -/

/-- The number of edges of the graph that start at a shape. -/
def edges (m : Model) (id : ShapeId) : Nat :=
  match m.shapes.find? id with
  | some (.resource s) => s.resources.length
  | _ => 0

/-- The number of steps that a search can take: one for each reference to a resource, be it that of
the service or that of another resource. -/
def stepBound (m : Model) (service : ShapeId) : Nat :=
  (match m.shapes.find? service with
    | some (.service s) => s.resources.length
    | _ => 0) + (m.shapes.keys.map m.edges).sum

/-- A walk ends after `n` steps, each of which looks at one shape: with the operations that it has
found, or at a shape that is no resource. -/
inductive Ends (m : Model) : Nat → List ShapeId → SortedSet ShapeId → List ShapeId →
    Except ShapeId (SortedSet ShapeId) → Prop where
  | done {unvisited : List ShapeId} {found : SortedSet ShapeId} :
      Ends m 0 unvisited found [] (.ok found)
  | unknown {unvisited stack : List ShapeId} {found : SortedSet ShapeId} {r : ShapeId} :
      ¬ m.IsResource r → Ends m 1 unvisited found (r :: stack) (.error r)
  | visit {n : Nat} {unvisited stack : List ShapeId} {found : SortedSet ShapeId} {r : ShapeId}
      {s : ResourceShape} {outcome : Except ShapeId (SortedSet ShapeId)} :
      m.shapes.find? r = some (.resource s) → r ∈ unvisited →
      Ends m n (unvisited.erase r) (found.addAll s.allOperations) (s.resources ++ stack) outcome →
      Ends m (n + 1) unvisited found (r :: stack) outcome
  | skip {n : Nat} {unvisited stack : List ShapeId} {found : SortedSet ShapeId} {r : ShapeId}
      {s : ResourceShape} {outcome : Except ShapeId (SortedSet ShapeId)} :
      m.shapes.find? r = some (.resource s) → r ∉ unvisited →
      Ends m n unvisited found stack outcome →
      Ends m (n + 1) unvisited found (r :: stack) outcome

/-- The report of an outcome. -/
def reported {α : Type} (outcome : Except ShapeId α) : Except Error α :=
  outcome.mapError fun id => .unknownShape id.text

theorem exists_ends (m : Model) (unvisited : List ShapeId) (found : SortedSet ShapeId)
    (stack : List ShapeId) :
    ∃ n outcome, n ≤ stack.length + (unvisited.map m.edges).sum ∧
      m.Ends n unvisited found stack outcome ∧
      m.walk unvisited found stack = reported outcome := by
  induction unvisited, found, stack using walk.induct m with
  | case1 unvisited found =>
    refine ⟨0, .ok found, Nat.zero_le _, .done, ?_⟩
    rw [walk]
    rfl
  | case2 unvisited found r stack s hr fresh ih =>
    obtain ⟨n, outcome, bound, ends, same⟩ := ih
    refine ⟨n + 1, outcome, ?_, .visit hr fresh ends, ?_⟩
    · -- The edges of the shape are on the stack now, and count no longer as unvisited.
      have own : m.edges r = s.resources.length := by rw [edges, hr]
      have split := List.sum_map_erase m.edges fresh
      rw [List.length_append] at bound
      rw [List.length_cons]
      omega
    · rw [walk, hr]
      simp only [if_pos fresh]
      exact same
  | case3 unvisited found r stack s hr visited ih =>
    obtain ⟨n, outcome, bound, ends, same⟩ := ih
    refine ⟨n + 1, outcome, ?_, .skip hr visited ends, ?_⟩
    · rw [List.length_cons]
      omega
    · rw [walk, hr]
      simp only [if_neg visited]
      exact same
  | case4 unvisited found r stack other =>
    have unknown : ¬ m.IsResource r := by
      rintro ⟨s, hs⟩
      exact other s hs
    refine ⟨1, .error r, ?_, .unknown unknown, ?_⟩
    · rw [List.length_cons]
      omega
    · rw [walk]
      split
      · rename_i hr
        exact absurd hr (other _)
      · rfl

variable {n : Nat} {unvisited stack : List ShapeId} {found result : SortedSet ShapeId}

theorem Ends.walks (h : m.Ends n unvisited found stack (.ok result)) :
    m.Walks unvisited found stack result := by
  generalize ho : (Except.ok result : Except ShapeId (SortedSet ShapeId)) = outcome at h
  induction h with
  | done =>
    cases ho
    exact .done
  | unknown => cases ho
  | visit hr fresh _ ih => exact .visit hr fresh (ih ho)
  | skip hr visited _ ih => exact .skip hr visited (ih ho)

/-- A walk fails at a shape that it has been led to. -/
theorem Ends.leadsTo {id : ShapeId} (h : m.Ends n unvisited found stack (.error id)) :
    m.LeadsTo stack id ∧ ¬ m.IsResource id := by
  generalize ho : (Except.error id : Except ShapeId (SortedSet ShapeId)) = outcome at h
  induction h with
  | done => cases ho
  | unknown other =>
    cases ho
    exact ⟨.root (List.mem_cons_self ..), other⟩
  | @visit _ _ stack _ r _ _ hr _ _ ih =>
    obtain ⟨led, other⟩ := ih ho
    -- The stack of the walk that is left holds the children of the shape, and what was below it.
    have self : m.LeadsTo (r :: stack) r := .root (List.mem_cons_self ..)
    refine ⟨led.mono fun a ha => ?_, other⟩
    rcases List.mem_append.mp ha with child | later
    · exact self.child hr child
    · exact .root (List.mem_cons_of_mem _ later)
  | skip _ _ _ ih =>
    obtain ⟨led, other⟩ := ih ho
    exact ⟨led.mono fun a ha => .root (List.mem_cons_of_mem _ ha), other⟩

/-! ### Walks that succeed -/

theorem Walks.isResource_of_mem (h : m.Walks unvisited found stack result) :
    ∀ r ∈ stack, m.IsResource r := by
  induction h with
  | done => simp
  | visit hr _ _ ih =>
    intro q hq
    rcases List.mem_cons.mp hq with rfl | later
    · exact ⟨_, hr⟩
    · exact ih q (List.mem_append_right _ later)
  | skip hr _ _ ih =>
    intro q hq
    rcases List.mem_cons.mp hq with rfl | later
    · exact ⟨_, hr⟩
    · exact ih q later

/-- What becomes visited during a walk has resources as children, and these have been visited at
its end. -/
theorem Walks.children (h : m.Walks unvisited found stack result) (nodup : unvisited.Nodup) :
    ∃ left, left ⊆ unvisited ∧ (∀ r ∈ stack, r ∉ left) ∧
      ∀ r s, r ∈ unvisited → r ∉ left → m.shapes.find? r = some (.resource s) →
        ∀ c ∈ s.resources, m.IsResource c ∧ c ∉ left := by
  induction h with
  | done => exact ⟨_, List.Subset.refl _, by simp, fun _ _ hr hn => absurd hr hn⟩
  | @visit unvisited stack _ _ r s hr _ walks ih =>
    obtain ⟨left, sub, stacked, children⟩ := ih (nodup.erase r)
    refine ⟨left, fun q hq => List.mem_of_mem_erase (sub hq), ?_, ?_⟩
    · intro q hq
      rcases List.mem_cons.mp hq with rfl | later
      · exact fun mem => nodup.not_mem_erase (sub mem)
      · exact stacked q (List.mem_append_right _ later)
    · intro q t hq fresh ht
      by_cases same : q = r
      · -- The children of the shape that is visited are on the stack of the walk that is left.
        subst same
        cases hr.symm.trans ht
        intro c hc
        have waiting : c ∈ s.resources ++ stack := List.mem_append_left _ hc
        exact ⟨walks.isResource_of_mem c waiting, stacked c waiting⟩
      · exact children q t ((List.mem_erase_of_ne same).mpr hq) fresh ht
  | skip _ visited _ ih =>
    obtain ⟨left, sub, stacked, children⟩ := ih nodup
    refine ⟨left, sub, fun q hq => ?_, children⟩
    rcases List.mem_cons.mp hq with rfl | later
    · exact fun mem => visited (sub mem)
    · exact stacked q later

/-- A walk that starts before anything has been visited and succeeds is led to resources only. -/
theorem Walks.isResource_of_leadsTo {roots : List ShapeId}
    (h : m.Walks m.shapes.keys found roots result) {r : ShapeId} (hr : m.LeadsTo roots r) :
    m.IsResource r := by
  obtain ⟨left, _, stacked, children⟩ := h.children m.shapes.nodup_keys
  -- That a shape has been visited by the end of the walk passes on to its children.
  have visited : m.IsResource r ∧ r ∉ left := by
    induction hr with
    | root hroot => exact ⟨h.isResource_of_mem _ hroot, stacked _ hroot⟩
    | child _ hs hc ih => exact children _ _ (mem_keys_of_find? hs) ih.2 hs _ hc
  exact visited.1

/-! ### The search for the operations of a service -/

/-- The search for the operations of a service looks at `n` resources. -/
inductive Searches (m : Model) (service : ShapeId) :
    Nat → Except ShapeId (List ShapeId) → Prop where
  | unknown : ¬ m.IsService service → Searches m service 0 (.error service)
  | walk {n : Nat} {s : ServiceShape} {outcome : Except ShapeId (SortedSet ShapeId)} :
      m.shapes.find? service = some (.service s) →
      m.Ends n m.shapes.keys (SortedSet.ofList s.operations) s.resources outcome →
      Searches m service n (outcome.map SortedSet.toList)

theorem operations_of_not_isService {service : ShapeId} (h : ¬ m.IsService service) :
    m.operations service = .error (.unknownShape service.text) := by
  rw [Model.operations, shape]
  cases hs : m.shapes.find? service with
  | none => rfl
  | some shape =>
    cases shape with
    | service s => exact absurd ⟨s, hs⟩ h
    | _ => rfl

theorem operations_of_service {service : ShapeId} {s : ServiceShape}
    (hs : m.shapes.find? service = some (.service s)) {outcome : Except ShapeId (SortedSet ShapeId)}
    (hw : m.walk m.shapes.keys (SortedSet.ofList s.operations) s.resources = reported outcome) :
    m.operations service = reported (outcome.map SortedSet.toList) := by
  rw [Model.operations, shape, hs]
  show m.walk _ _ s.resources >>= _ = _
  rw [hw]
  cases outcome <;> rfl

theorem exists_searches (m : Model) (service : ShapeId) :
    ∃ n outcome, n ≤ m.stepBound service ∧ m.Searches service n outcome ∧
      m.operations service = reported outcome := by
  by_cases known : m.IsService service
  · obtain ⟨s, hs⟩ := known
    obtain ⟨n, outcome, bound, ends, same⟩ :=
      m.exists_ends m.shapes.keys (SortedSet.ofList s.operations) s.resources
    refine ⟨n, outcome.map SortedSet.toList, ?_, .walk hs ends, operations_of_service hs same⟩
    rw [stepBound, hs]
    exact bound
  · exact ⟨0, .error service, Nat.zero_le _, .unknown known, operations_of_not_isService known⟩

/-- A search that succeeds resolves the service, and has found its operations in order. -/
theorem Searches.resolves {service : ShapeId} {operations : List ShapeId}
    (h : m.Searches service n (.ok operations)) :
    m.Resolves service ∧ operations.Pairwise fun a b => compare a b = .lt := by
  generalize ho : (Except.ok operations : Except ShapeId (List ShapeId)) = outcome at h
  cases h with
  | unknown => cases ho
  | @walk _ s outcome hs ends =>
    cases outcome with
    | error id => cases ho
    | ok result =>
      cases ho
      refine ⟨⟨s, hs, fun r hr => ends.walks.isResource_of_leadsTo hr⟩, ?_⟩
      exact List.pairwise_map.mpr result.sorted

theorem Searches.dangles {service id : ShapeId} (h : m.Searches service n (.error id)) :
    m.Dangles service id := by
  generalize ho : (Except.error id : Except ShapeId (List ShapeId)) = outcome at h
  cases h with
  | unknown other =>
    cases ho
    exact .service other
  | @walk _ s outcome hs ends =>
    cases outcome with
    | ok result => cases ho
    | error r =>
      cases ho
      obtain ⟨led, other⟩ := ends.leadsTo
      exact .resource hs led other

/-- A service that is resolved has operations, which are listed in order, and any other is reported
by what keeps it from being resolved. -/
theorem resolves_or_dangles (m : Model) (service : ShapeId) :
    (∃ operations, m.operations service = .ok operations ∧ m.Resolves service ∧
      operations.Pairwise fun a b => compare a b = .lt) ∨
    ∃ id, m.operations service = .error (.unknownShape id.text) ∧ m.Dangles service id := by
  obtain ⟨n, outcome, -, search, same⟩ := m.exists_searches service
  cases outcome with
  | ok operations =>
    obtain ⟨resolved, sorted⟩ := search.resolves
    exact .inl ⟨operations, same, resolved, sorted⟩
  | error id => exact .inr ⟨id, same, search.dangles⟩

/-- The search for the operations of a service ends, after as many steps as the model has references
to resources at most. If the service leads to resources only, the operations that are bound to it or
to one of them are listed in order. Otherwise the report names a shape that keeps the service from
being resolved. -/
theorem operations_reach (m : Model) (service : ShapeId) :
    (∃ n outcome, n ≤ m.stepBound service ∧ m.Searches service n outcome ∧
      m.operations service = reported outcome) ∧
    match m.operations service with
    | .ok operations =>
      m.Resolves service ∧ operations.Pairwise (fun a b => compare a b = .lt) ∧
        ∀ o, o ∈ operations ↔ m.Offers service o
    | .error e => ¬ m.Resolves service ∧ ∃ id, e = .unknownShape id.text ∧ m.Dangles service id := by
  refine ⟨m.exists_searches service, ?_⟩
  rcases m.resolves_or_dangles service with ⟨operations, found, resolved, sorted⟩ | ⟨id, same, why⟩
  · rw [found]
    refine ⟨resolved, sorted, fun o => ?_⟩
    rw [offers_iff]
    exact mem_operations_iff found
  · rw [same]
    exact ⟨why.not_resolves, id, rfl, why⟩

end Model

end Cratewright
