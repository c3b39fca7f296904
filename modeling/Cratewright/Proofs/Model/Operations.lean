/-
The operations of a service, and those that take a token.

The walk through a service's resources visits each of them once. What has been visited is
known from what has not: its operations have been found, and its children have been visited
or are still to be. So at the end of a walk the visited resources contain all that were to
be reached:

* `Model.Walks.sound`, `Model.Walks.complete` — a walk finds the operations of the resources
  that are reached, and no others;
* `Model.mem_operations_iff` — the operations of a service;
* `Model.needsIdempotencyToken_cases` — what it means that a service needs a token, and that
  only an unknown shape is an error.
-/
import Mathlib.Data.List.Basic
import Cratewright.Model
import Cratewright.Outcome
import Cratewright.Proofs.SortedMap

namespace Cratewright

namespace Model

variable {m : Model}

/-! ### What is reached -/

/-- The resources that some resources lead to. -/
inductive LeadsTo (m : Model) (roots : List ShapeId) : ShapeId → Prop where
  | root {r : ShapeId} : r ∈ roots → LeadsTo m roots r
  | child {r c : ShapeId} {s : ResourceShape} : LeadsTo m roots r →
      m.shapes.find? r = some (.resource s) → c ∈ s.resources → LeadsTo m roots c

/-- An operation of a resource that some resources lead to. -/
def HasBelow (m : Model) (roots : List ShapeId) (operation : ShapeId) : Prop :=
  ∃ r s, m.LeadsTo roots r ∧ m.shapes.find? r = some (.resource s) ∧ operation ∈ s.allOperations

/-- An operation of a service: its own, or one of a resource that it leads to. -/
def HasOperation (m : Model) (service operation : ShapeId) : Prop :=
  ∃ s, m.shapes.find? service = some (.service s) ∧
    (operation ∈ s.operations ∨ m.HasBelow s.resources operation)

/-- The input of an operation has a member that is an idempotency token. -/
def TakesToken (m : Model) (operation : ShapeId) : Prop :=
  ∃ s input t name member, m.shapes.find? operation = some (.operation s) ∧
    s.input = some input ∧ m.shapes.find? input = some (.struct t) ∧
    t.members.find? name = some member ∧ member.traits.contains idempotencyTokenTrait

theorem LeadsTo.mono {roots others : List ShapeId} {r : ShapeId}
    (h : ∀ a ∈ roots, m.LeadsTo others a) (hr : m.LeadsTo roots r) : m.LeadsTo others r := by
  induction hr with
  | root ha => exact h _ ha
  | child _ hs hc ih => exact ih.child hs hc

/-! ### The walk -/

/-- The walks that end with a result, step by step. -/
inductive Walks (m : Model) :
    List ShapeId → SortedSet ShapeId → List ShapeId → SortedSet ShapeId → Prop where
  | done {unvisited : List ShapeId} {found : SortedSet ShapeId} : Walks m unvisited found [] found
  | visit {unvisited stack : List ShapeId} {found result : SortedSet ShapeId} {r : ShapeId}
      {s : ResourceShape} : m.shapes.find? r = some (.resource s) → r ∈ unvisited →
      Walks m (unvisited.erase r) (found.addAll s.allOperations) (s.resources ++ stack) result →
      Walks m unvisited found (r :: stack) result
  | skip {unvisited stack : List ShapeId} {found result : SortedSet ShapeId} {r : ShapeId}
      {s : ResourceShape} : m.shapes.find? r = some (.resource s) → r ∉ unvisited →
      Walks m unvisited found stack result → Walks m unvisited found (r :: stack) result

/-- A walk ends with a result step by step, or comes to a shape that is no resource. -/
theorem walks_or_unknown (m : Model) (unvisited : List ShapeId) (found : SortedSet ShapeId)
    (stack : List ShapeId) :
    (∃ result, m.walk unvisited found stack = .ok result ∧
      m.Walks unvisited found stack result) ∨
    ∃ id, m.walk unvisited found stack = .error (.unknownShape id) := by
  induction unvisited, found, stack using walk.induct m with
  | case1 unvisited found =>
    rw [walk]
    exact .inl ⟨found, rfl, .done⟩
  | case2 unvisited found r stack s hr fresh ih =>
    rw [walk, hr]
    simp only [if_pos fresh]
    exact ih.imp_left fun ⟨result, h, walks⟩ => ⟨result, h, .visit hr fresh walks⟩
  | case3 unvisited found r stack s hr visited ih =>
    rw [walk, hr]
    simp only [if_neg visited]
    exact ih.imp_left fun ⟨result, h, walks⟩ => ⟨result, h, .skip hr visited walks⟩
  | case4 unvisited found r stack other =>
    rw [walk]
    split
    · rename_i hr
      exact absurd hr (other _)
    · exact .inr ⟨_, rfl⟩

variable {unvisited stack : List ShapeId} {found result : SortedSet ShapeId}

theorem walks_of_ok (h : m.walk unvisited found stack = .ok result) :
    m.Walks unvisited found stack result := by
  rcases m.walks_or_unknown unvisited found stack with ⟨other, hw, walks⟩ | ⟨id, hw⟩
  · rw [h] at hw
    cases hw
    exact walks
  · rw [h] at hw
    cases hw

/-- What a walk finds are operations of resources that it is led to. -/
theorem Walks.sound (h : m.Walks unvisited found stack result) {o : ShapeId}
    (ho : o ∈ result.toList) : o ∈ found.toList ∨ m.HasBelow stack o := by
  induction h with
  | done => exact .inl ho
  | @visit _ stack _ _ r s hr _ _ ih =>
    have self : m.LeadsTo (r :: stack) r := .root (List.mem_cons_self ..)
    rcases ih ho with known | ⟨q, t, hq, ht, hot⟩
    · rcases SortedSet.mem_toList_addAll.mp known with own | known
      · exact .inr ⟨_, _, self, hr, own⟩
      · exact .inl known
    · refine .inr ⟨q, t, hq.mono fun a ha => ?_, ht, hot⟩
      rcases List.mem_append.mp ha with child | later
      · exact self.child hr child
      · exact .root (List.mem_cons_of_mem _ later)
  | skip _ _ _ ih =>
    rcases ih ho with known | ⟨q, t, hq, ht, hot⟩
    · exact .inl known
    · exact .inr ⟨q, t, hq.mono fun a ha => .root (List.mem_cons_of_mem _ ha), ht, hot⟩

theorem Walks.keeps (h : m.Walks unvisited found stack result) {o : ShapeId}
    (ho : o ∈ found.toList) : o ∈ result.toList := by
  induction h with
  | done => exact ho
  | visit _ _ _ ih => exact ih (SortedSet.mem_toList_addAll.mpr (.inr ho))
  | skip _ _ _ ih => exact ih ho

/-- What has been visited is accounted for: its operations have been found, and its children
have been visited or are on the stack. -/
def Accounted (m : Model) (unvisited : List ShapeId) (found : SortedSet ShapeId)
    (stack : List ShapeId) : Prop :=
  ∀ r s, r ∉ unvisited → m.shapes.find? r = some (.resource s) →
    (∀ o ∈ s.allOperations, o ∈ found.toList) ∧ ∀ c ∈ s.resources, c ∈ stack ∨ c ∉ unvisited

theorem Accounted.visit {r : ShapeId} {s : ResourceShape}
    (h : m.Accounted unvisited found (r :: stack)) (nodup : unvisited.Nodup)
    (hr : m.shapes.find? r = some (.resource s)) :
    m.Accounted (unvisited.erase r) (found.addAll s.allOperations) (s.resources ++ stack) := by
  intro q t hq ht
  by_cases same : q = r
  · subst same
    rw [hr] at ht
    cases ht
    constructor
    · intro o ho
      exact SortedSet.mem_toList_addAll.mpr (.inl ho)
    · intro c hc
      exact .inl (List.mem_append_left _ hc)
  · have before : q ∉ unvisited := fun hu => hq ((List.mem_erase_of_ne same).mpr hu)
    obtain ⟨operations, children⟩ := h q t before ht
    constructor
    · intro o ho
      exact SortedSet.mem_toList_addAll.mpr (.inr (operations o ho))
    · intro c hc
      rcases children c hc with waiting | visited
      · rcases List.mem_cons.mp waiting with rfl | waiting
        · exact .inr nodup.not_mem_erase
        · exact .inl (List.mem_append_right _ waiting)
      · exact .inr fun hu => visited (List.mem_of_mem_erase hu)

theorem Accounted.skip {r : ShapeId} (h : m.Accounted unvisited found (r :: stack))
    (visited : r ∉ unvisited) : m.Accounted unvisited found stack := by
  intro q t hq ht
  obtain ⟨operations, children⟩ := h q t hq ht
  refine ⟨operations, fun c hc => ?_⟩
  rcases children c hc with waiting | done
  · rcases List.mem_cons.mp waiting with rfl | waiting
    · exact .inr visited
    · exact .inl waiting
  · exact .inr done

/-- At the end of a walk what was on the stack has been visited, nothing has become unvisited,
and what has been visited is accounted for. -/
theorem Walks.complete (h : m.Walks unvisited found stack result) (nodup : unvisited.Nodup)
    (accounted : m.Accounted unvisited found stack) :
    ∃ left, m.Accounted left result [] ∧ (∀ r ∈ stack, r ∉ left) ∧ left ⊆ unvisited := by
  induction h with
  | done => exact ⟨_, accounted, by simp, List.Subset.refl _⟩
  | visit hr _ _ ih =>
    obtain ⟨left, hleft, stacked, sub⟩ := ih (nodup.erase _) (accounted.visit nodup hr)
    refine ⟨left, hleft, fun q hq => ?_, fun q hq => List.mem_of_mem_erase (sub hq)⟩
    rcases List.mem_cons.mp hq with rfl | later
    · exact fun mem => nodup.not_mem_erase (sub mem)
    · exact stacked q (List.mem_append_right _ later)
  | skip _ visited _ ih =>
    obtain ⟨left, hleft, stacked, sub⟩ := ih nodup (accounted.skip visited)
    refine ⟨left, hleft, fun q hq => ?_, sub⟩
    rcases List.mem_cons.mp hq with rfl | later
    · exact fun mem => visited (sub mem)
    · exact stacked q later

/-! ### Operations -/

theorem mem_keys_of_find? {id : ShapeId} {s : Shape} (h : m.shapes.find? id = some s) :
    id ∈ m.shapes.keys :=
  SortedMap.mem_keys_iff.mpr ⟨s, h⟩

/-- The walk from a service's resources finds the operations below them, besides those that
were known before. -/
theorem mem_walk_iff {roots : List ShapeId}
    (h : m.walk m.shapes.keys found roots = .ok result) {o : ShapeId} :
    o ∈ result.toList ↔ o ∈ found.toList ∨ m.HasBelow roots o := by
  have walks := walks_of_ok h
  -- At the start every shape is unvisited, so there is nothing to account for.
  have start : m.Accounted m.shapes.keys found roots :=
    fun r s hr hs => absurd (mem_keys_of_find? hs) hr
  obtain ⟨left, accounted, stacked, _⟩ := walks.complete m.shapes.nodup_keys start
  constructor
  · exact walks.sound
  · rintro (known | ⟨r, s, hr, hs, ho⟩)
    · exact walks.keeps known
    -- What is reached has been visited, by induction along the way to it.
    · have visited : r ∉ left := by
        clear hs
        induction hr with
        | root hroot => exact stacked _ hroot
        | child _ hs hc ih =>
          rcases (accounted _ _ ih hs).2 _ hc with none | visited
          · cases none
          · exact visited
      exact (accounted r s visited hs).1 o ho

theorem shape_or_unknown (m : Model) (id : ShapeId) :
    (∃ s, m.shape id = .ok s) ∨ m.shape id = .error (.unknownShape id.text) := by
  rw [shape]
  cases m.shapes.find? id with
  | none => exact .inr rfl
  | some s => exact .inl ⟨s, rfl⟩

theorem serviceProtocols_or_unknown (m : Model) (service : ShapeId) :
    (∃ ids, m.serviceProtocols service = .ok ids) ∨
      ∃ id, m.serviceProtocols service = .error (.unknownShape id) := by
  rw [serviceProtocols, traits]
  rcases m.shape_or_unknown service with ⟨s, hs⟩ | hs
  · exact .inl ⟨_, by rw [hs]; rfl⟩
  · exact .inr ⟨_, by rw [hs]; rfl⟩

/-- The operations of a service come from a walk, or some shape is unknown. -/
theorem operations_cases (m : Model) (service : ShapeId) :
    (∃ s found, m.shapes.find? service = some (.service s) ∧
      m.walk m.shapes.keys (SortedSet.ofList s.operations) s.resources = .ok found ∧
      m.operations service = .ok found.toList) ∨
    ∃ id, m.operations service = .error (.unknownShape id) := by
  rw [Model.operations, shape]
  cases m.shapes.find? service with
  | none => exact .inr ⟨_, rfl⟩
  | some shape =>
    cases shape with
    | service s =>
      show (∃ _ _, _ ∧ _ ∧ m.walk _ _ s.resources >>= _ = _) ∨
        ∃ _, m.walk _ _ s.resources >>= _ = _
      rcases m.walks_or_unknown m.shapes.keys (SortedSet.ofList s.operations) s.resources with
        ⟨found, hw, _⟩ | ⟨id, hw⟩
      · exact .inl ⟨s, found, rfl, hw, by rw [hw]; rfl⟩
      · exact .inr ⟨id, by rw [hw]; rfl⟩
    | _ => exact .inr ⟨_, rfl⟩

/-- A service without resources has its own operations. -/
theorem operations_of_no_resources {service : ShapeId} {s : ServiceShape}
    (hs : m.shapes.find? service = some (.service s)) (none : s.resources = []) :
    m.operations service = .ok (SortedSet.ofList s.operations).toList := by
  rw [Model.operations, shape, hs]
  show m.walk _ _ s.resources >>= _ = _
  rw [none, walk]
  rfl

theorem mem_operations_iff {service : ShapeId} {operations : List ShapeId}
    (h : m.operations service = .ok operations) {o : ShapeId} :
    o ∈ operations ↔ m.HasOperation service o := by
  rcases m.operations_cases service with ⟨s, found, hs, hw, ho⟩ | ⟨id, he⟩
  · rw [h] at ho
    cases ho
    rw [mem_walk_iff hw, SortedSet.mem_toList_ofList]
    constructor
    · intro ho
      exact ⟨s, hs, ho⟩
    · rintro ⟨t, ht, ho⟩
      rw [hs] at ht
      cases ht
      exact ho
  · rw [h] at he
    cases he

/-! ### Tokens -/

/-- A member is a token if the trait is among those that are listed with it. -/
theorem any_members_iff (input : ShapeId) (t : StructureShape) :
    (t.members.entries.map fun e =>
        (⟨input.withMember e.1, e.2.target, e.2.traits.keys⟩ : InputMember)).any
      (·.traits.contains idempotencyTokenTrait) = true ↔
    ∃ name member, t.members.find? name = some member ∧
      member.traits.contains idempotencyTokenTrait = true := by
  have listed (member : MemberShape) : idempotencyTokenTrait ∈ member.traits.keys ↔
      member.traits.contains idempotencyTokenTrait = true := by
    rw [SortedMap.mem_keys_iff, SortedMap.contains, Option.isSome_iff_exists]
  simp [listed, SortedMap.find?_eq_some_iff]

section Input

variable {operation : ShapeId} {s : OperationShape}
  (hs : m.shapes.find? operation = some (.operation s))

include hs

theorem inputMembers_of_struct {input : ShapeId} {t : StructureShape}
    (hinput : s.input = some input) (ht : m.shapes.find? input = some (.struct t)) :
    m.inputMembers operation = .ok (t.members.entries.map fun e =>
      ⟨input.withMember e.1, e.2.target, e.2.traits.keys⟩) := by
  simp only [inputMembers, shape, hs, hinput, ht, bind, Except.bind]
  rfl

/-- Without an input structure, an operation's input has no members. -/
theorem inputMembers_of_no_struct
    (none : ∀ input t, s.input = some input → m.shapes.find? input ≠ some (.struct t)) :
    m.inputMembers operation = .ok [] := by
  cases hinput : s.input with
  | none =>
    simp only [inputMembers, shape, hs, hinput, bind, Except.bind]
    rfl
  | some input =>
    simp only [inputMembers, shape, hs, hinput, bind, Except.bind]
    split
    · rename_i t ht
      exact absurd ht (none input t hinput)
    · rfl

end Input

/-- The members of an operation's input tell whether it takes a token, or the operation is
unknown. -/
theorem inputMembers_cases (m : Model) (operation : ShapeId) :
    (∃ members, m.inputMembers operation = .ok members ∧
      (members.any (·.traits.contains idempotencyTokenTrait) = true ↔ m.TakesToken operation)) ∨
    ∃ id, m.inputMembers operation = .error (.unknownShape id) := by
  cases hs : m.shapes.find? operation with
  | none => exact .inr ⟨_, by rw [inputMembers, shape, hs]; rfl⟩
  | some shape =>
    cases shape with
    | operation s =>
      refine .inl ?_
      by_cases struct : ∃ input t, s.input = some input ∧ m.shapes.find? input = some (.struct t)
      · obtain ⟨input, t, hinput, ht⟩ := struct
        refine ⟨_, inputMembers_of_struct hs hinput ht, (any_members_iff input t).trans ?_⟩
        constructor
        · rintro ⟨name, member, hmember, token⟩
          exact ⟨s, input, t, name, member, hs, hinput, ht, hmember, token⟩
        · rintro ⟨_, _, _, name, member, hs', hinput', ht', hmember, token⟩
          cases hs.symm.trans hs'
          cases hinput.symm.trans hinput'
          cases ht.symm.trans ht'
          exact ⟨name, member, hmember, token⟩
      · have none : m.inputMembers operation = .ok [] :=
          inputMembers_of_no_struct hs fun input t hinput ht => struct ⟨input, t, hinput, ht⟩
        refine ⟨[], none, iff_of_false (by simp) ?_⟩
        rintro ⟨_, input, t, _, _, hs', hinput, ht, _⟩
        cases hs.symm.trans hs'
        exact struct ⟨input, t, hinput, ht⟩
    | _ => exact .inr ⟨_, by rw [inputMembers, Model.shape, hs]; rfl⟩

/-- Whether some operation takes a token is found out, or some operation is unknown. -/
theorem anyToken_cases (m : Model) (operations : List ShapeId) :
    (∃ needed, m.anyToken operations = .ok needed ∧
      (needed = true ↔ ∃ o ∈ operations, m.TakesToken o)) ∨
    ∃ id, m.anyToken operations = .error (.unknownShape id) := by
  induction operations with
  | nil => exact .inl ⟨false, rfl, by simp⟩
  | cons o rest ih =>
    rcases m.inputMembers_cases o with ⟨members, hm, takes⟩ | ⟨id, he⟩
    · rw [anyToken, hm]
      by_cases token : members.any (·.traits.contains idempotencyTokenTrait) = true
      · refine .inl ⟨true, if_pos token, iff_of_true rfl ?_⟩
        exact ⟨o, List.mem_cons_self .., takes.mp token⟩
      · have skip : ((.ok members : Except Error _) >>= fun members =>
            if members.any (·.traits.contains idempotencyTokenTrait) then return true
            else m.anyToken rest) = m.anyToken rest := if_neg token
        rw [skip]
        simpa [mt takes.mpr token] using ih
    · exact .inr ⟨id, by rw [anyToken, he]; rfl⟩

/-- Whether a service needs a token is found out, and it does if some operation of it takes
one, or some shape is unknown. -/
theorem needsIdempotencyToken_cases (m : Model) (service : ShapeId) :
    (∃ needed, m.needsIdempotencyToken service = .ok needed ∧
      (needed = true ↔ ∃ o, m.HasOperation service o ∧ m.TakesToken o)) ∨
    ∃ id, m.needsIdempotencyToken service = .error (.unknownShape id) := by
  rw [needsIdempotencyToken]
  rcases m.operations_cases service with ⟨s, found, _, _, ho⟩ | ⟨id, he⟩
  · have iff := fun o => mem_operations_iff ho (o := o)
    rw [ho]
    show (∃ _, m.anyToken _ = _ ∧ _) ∨ ∃ _, m.anyToken _ = _
    simp only [← iff]
    exact m.anyToken_cases found.toList
  · rw [he]
    exact .inr ⟨id, rfl⟩

end Model

end Cratewright
