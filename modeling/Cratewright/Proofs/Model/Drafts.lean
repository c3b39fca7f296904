/-
Drafts, told from the steps that put them together.

A step gives shapes to identifiers, and an operation is bound to its service besides. If no
identifier gets two shapes, and no service comes after its operations, then a draft holds for each
identifier the shape that some step gave it, with all that the steps have bound to it:

* `Draft.find?_step_of_mem`, `Draft.find?_step_of_not_mem` — what is found after one step;
* `Draft.find?_ofSteps` — what is found after all of them;
* `Draft.find?_ofSteps_iff` — the same, told by the kinds of the steps.
-/
import Mathlib.Data.List.Induction
import Mathlib.Data.List.Nodup
import Cratewright.Model.Draft
import Cratewright.Proofs.SortedMap

namespace Cratewright

/-! ### Bindings -/

/-- A service with further operations. Other shapes have none. -/
def DraftShape.binding : DraftShape → List String → DraftShape
  | service protocols operations, more => service protocols (operations ++ more)
  | shape, _ => shape

namespace DraftShape

@[simp] theorem binding_nil (s : DraftShape) : s.binding [] = s := by
  cases s <;> simp [binding]

theorem binding_append (s : DraftShape) (xs ys : List String) :
    s.binding (xs ++ ys) = (s.binding xs).binding ys := by
  cases s <;> simp [binding]

end DraftShape

namespace Draft

variable {d : Draft} {id : String} {shape : DraftShape}

theorem find?_put (d : Draft) (id : String) (s : DraftShape) (j : String) :
    (d.put id s).shapes.find? j = if j = id then some s else d.shapes.find? j :=
  SortedMap.find?_insert ..

theorem find?_bind (d : Draft) (service operation j : String) :
    (d.bind service operation).shapes.find? j
      = (d.shapes.find? j).map (·.binding (if service = j then [operation] else [])) := by
  rw [bind]
  by_cases same : service = j
  · subst same
    cases found : d.shapes.find? service with
    | none => simp [found]
    | some s => cases s <;> simp [found, find?_put, DraftShape.binding]
  · simp only [if_neg same, DraftShape.binding_nil, Option.map_id']
    split
    · rw [find?_put, if_neg (Ne.symm same)]
    · rfl

/-! ### Steps -/

/-- A step of putting a draft together. -/
inductive Step where
  | service (id : String) (protocols : List String)
  | operation (service id : String) (members : List (String × Bool))
  | protocolDefinition (id : String)

/-- The draft after a step. -/
def step (d : Draft) : Step → Draft
  | .service id protocols => d.service id protocols
  | .operation service id members => d.operation service id members
  | .protocolDefinition id => d.protocolDefinition id

/-- The draft that some steps put together. -/
def ofSteps (steps : List Step) : Draft := steps.foldl step empty

/-- The identifier of an operation's input. -/
def inputOf (operation : String) : String := operation ++ "Input"

theorem operation_eq (d : Draft) (owner id : String) (members : List (String × Bool)) :
    d.operation owner id members =
      ((d.put (inputOf id) (.input (SortedMap.ofList members))).put id
        (.operation (inputOf id))).bind owner id :=
  rfl

theorem inputOf_ne (operation : String) : inputOf operation ≠ operation := by
  intro same
  have lengths := congrArg String.length same
  simp [inputOf] at lengths

namespace Step

/-- The identifiers that a step gives a shape. -/
def created : Step → List String
  | service id _ => [id]
  | operation _ id _ => [id, inputOf id]
  | protocolDefinition id => [id]

/-- The shapes that a step gives to identifiers. -/
def shapes : Step → List (String × DraftShape)
  | service id protocols => [(id, .service (SortedSet.ofList protocols) [])]
  | operation _ id members =>
    [(id, .operation (inputOf id)), (inputOf id, .input (SortedMap.ofList members))]
  | protocolDefinition id => [(id, .protocolDefinition)]

/-- The operations that a step binds to a service. -/
def bound (target : String) : Step → List String
  | operation owner id _ => if owner = target then [id] else []
  | _ => []

theorem map_fst_shapes (s : Step) : s.shapes.map Prod.fst = s.created := by
  cases s <;> rfl

theorem mem_created {s : Step} (h : (id, shape) ∈ s.shapes) : id ∈ s.created := by
  rw [← s.map_fst_shapes]
  exact List.mem_map.mpr ⟨_, h, rfl⟩

theorem exists_of_mem_created {s : Step} (h : id ∈ s.created) : ∃ shape, (id, shape) ∈ s.shapes := by
  rw [← s.map_fst_shapes] at h
  obtain ⟨⟨_, shape⟩, mem, rfl⟩ := List.mem_map.mp h
  exact ⟨shape, mem⟩

end Step

/-- What a step gives an identifier is found after it, with what the step binds to it. -/
theorem find?_step_of_mem {s : Step} (h : (id, shape) ∈ s.shapes) :
    (d.step s).shapes.find? id = some (shape.binding (s.bound id)) := by
  cases s with
  | service owner protocols =>
    cases List.mem_singleton.mp h
    show (d.put id _).shapes.find? id = _
    rw [find?_put, if_pos rfl]
    rfl
  | operation owner name members =>
    rw [step, operation_eq, find?_bind, find?_put, find?_put, Step.bound]
    rcases List.mem_cons.mp h with same | last
    · cases same
      rw [if_pos rfl]
      rfl
    · cases List.mem_singleton.mp last
      rw [if_neg (inputOf_ne name), if_pos rfl]
      rfl
  | protocolDefinition trait =>
    cases List.mem_singleton.mp h
    show (d.put id _).shapes.find? id = _
    rw [find?_put, if_pos rfl]
    rfl

/-- Any other identifier keeps its shape, but for what the step binds to it. -/
theorem find?_step_of_not_mem {s : Step} (h : id ∉ s.created) :
    (d.step s).shapes.find? id = (d.shapes.find? id).map (·.binding (s.bound id)) := by
  cases s with
  | service owner protocols =>
    show (d.put owner _).shapes.find? id = _
    rw [find?_put, if_neg (by simpa [Step.created] using h)]
    simp [Step.bound]
  | operation owner name members =>
    simp only [Step.created, List.mem_cons, List.not_mem_nil, or_false, not_or] at h
    rw [step, operation_eq, find?_bind, find?_put, if_neg h.1, find?_put, if_neg h.2, Step.bound]
  | protocolDefinition trait =>
    show (d.put trait _).shapes.find? id = _
    rw [find?_put, if_neg (by simpa [Step.created] using h)]
    simp [Step.bound]

/-! ### All steps -/

/-- The operations that some steps bind to a service, in order. -/
def bound (steps : List Step) (owner : String) : List String :=
  steps.flatMap (Step.bound owner)

theorem mem_bound_iff {steps : List Step} {owner : String} :
    id ∈ bound steps owner ↔ ∃ members, Step.operation owner id members ∈ steps := by
  rw [bound, List.mem_flatMap]
  constructor
  · rintro ⟨s, mem, h⟩
    cases s with
    | operation other _ members =>
      rw [Step.bound] at h
      split at h
      · next same =>
        subst same
        cases List.mem_singleton.mp h
        exact ⟨members, mem⟩
      · cases h
    | _ => cases h
  · rintro ⟨members, mem⟩
    exact ⟨_, mem, by simp [Step.bound]⟩

/-- No identifier gets two shapes, and no service is added after an operation that is to be bound
to it. -/
structure IsOrderly (steps : List Step) : Prop where
  distinct : (steps.flatMap Step.created).Nodup
  ordered : steps.Pairwise fun earlier later =>
    ∀ id protocols, later = .service id protocols → earlier.bound id = []

section Orderly

variable {steps : List Step} {s : Step}

theorem IsOrderly.before (h : IsOrderly (steps ++ [s])) : IsOrderly steps := by
  obtain ⟨distinct, ordered⟩ := h
  rw [List.flatMap_append] at distinct
  exact ⟨distinct.of_append_left, (List.pairwise_append.mp ordered).1⟩

/-- Nothing has been bound to a service when it is added. -/
theorem IsOrderly.binding_bound (h : IsOrderly (steps ++ [s])) (mem : (id, shape) ∈ s.shapes) :
    shape.binding (bound steps id) = shape := by
  cases s with
  | service owner protocols =>
    cases List.mem_singleton.mp mem
    have none : bound steps id = [] := by
      refine List.flatMap_eq_nil_iff.mpr fun earlier he => ?_
      have apart := (List.pairwise_append.mp h.ordered).2.2 earlier he _ (List.mem_singleton_self _)
      exact apart id protocols rfl
    rw [none, DraftShape.binding_nil]
  | operation owner name members =>
    rcases List.mem_cons.mp mem with same | last
    · cases same
      rfl
    · cases List.mem_singleton.mp last
      rfl
  | protocolDefinition trait =>
    cases List.mem_singleton.mp mem
    rfl

theorem IsOrderly.eq_of_mem (h : IsOrderly steps) {other : DraftShape}
    (first : (id, shape) ∈ steps.flatMap Step.shapes)
    (second : (id, other) ∈ steps.flatMap Step.shapes) : shape = other := by
  have distinct : ((steps.flatMap Step.shapes).map Prod.fst).Nodup := by
    rw [List.map_flatMap]
    simpa only [Step.map_fst_shapes] using h.distinct
  have same := List.inj_on_of_nodup_map distinct first second rfl
  exact congrArg Prod.snd same

/-- After all steps an identifier has the shape that one of them gave it, with all that they have
bound to it. -/
theorem find?_ofSteps (h : IsOrderly steps) :
    (ofSteps steps).shapes.find? id = some shape ↔
      ∃ first, (id, first) ∈ steps.flatMap Step.shapes ∧
        first.binding (bound steps id) = shape := by
  induction steps using List.reverseRecOn generalizing shape with
  | nil => exact iff_of_false (by simp [ofSteps, empty, EmptyCollection.emptyCollection]) (by simp)
  | append_singleton steps s ih =>
    have concat : ofSteps (steps ++ [s]) = (ofSteps steps).step s := by
      rw [ofSteps, List.foldl_concat]
      rfl
    have bounds : bound (steps ++ [s]) id = bound steps id ++ s.bound id := by
      simp [bound, List.flatMap_append]
    rw [concat, bounds]
    by_cases new : id ∈ s.created
    · -- The identifier gets its shape here, so it had none, and nothing was bound to it.
      obtain ⟨first, mem⟩ := Step.exists_of_mem_created new
      have last : (id, first) ∈ (steps ++ [s]).flatMap Step.shapes := by
        simp [List.flatMap_append, mem]
      rw [find?_step_of_mem mem, ← h.binding_bound mem, ← DraftShape.binding_append,
        Option.some.injEq]
      constructor
      · intro same
        exact ⟨first, last, same⟩
      · rintro ⟨other, also, same⟩
        rw [h.eq_of_mem last also]
        exact same
    · rw [find?_step_of_not_mem new, Option.map_eq_some_iff]
      have old (first : DraftShape) : (id, first) ∈ (steps ++ [s]).flatMap Step.shapes ↔
          (id, first) ∈ steps.flatMap Step.shapes := by
        rw [List.flatMap_append, List.mem_append, List.flatMap_singleton]
        exact or_iff_left fun mem => new (Step.mem_created mem)
      simp only [ih h.before, old, DraftShape.binding_append]
      constructor
      · rintro ⟨_, ⟨first, mem, rfl⟩, same⟩
        exact ⟨first, mem, same⟩
      · rintro ⟨first, mem, same⟩
        exact ⟨_, ⟨first, mem, rfl⟩, same⟩

end Orderly

/-! ### What is asked for -/

/-- The shape that some steps ask for under an identifier. -/
inductive Asks (steps : List Step) : String → DraftShape → Prop where
  | service {id : String} {protocols : List String} : Step.service id protocols ∈ steps →
      Asks steps id (.service (SortedSet.ofList protocols) (bound steps id))
  | operation {owner id : String} {members : List (String × Bool)} :
      Step.operation owner id members ∈ steps → Asks steps id (.operation (inputOf id))
  | input {owner id : String} {members : List (String × Bool)} :
      Step.operation owner id members ∈ steps →
      Asks steps (inputOf id) (.input (SortedMap.ofList members))
  | protocolDefinition {id : String} : Step.protocolDefinition id ∈ steps →
      Asks steps id .protocolDefinition

theorem find?_ofSteps_iff {steps : List Step} (h : IsOrderly steps) :
    (ofSteps steps).shapes.find? id = some shape ↔ Asks steps id shape := by
  rw [find?_ofSteps h]
  constructor
  · rintro ⟨first, mem, rfl⟩
    obtain ⟨s, hs, mem⟩ := List.mem_flatMap.mp mem
    cases s with
    | service owner protocols =>
      cases List.mem_singleton.mp mem
      exact .service hs
    | operation owner name members =>
      rcases List.mem_cons.mp mem with same | last
      · cases same
        exact .operation hs
      · cases List.mem_singleton.mp last
        exact .input hs
    | protocolDefinition trait =>
      cases List.mem_singleton.mp mem
      exact .protocolDefinition hs
  · intro asked
    have given {s : Step} {first : DraftShape} (hs : s ∈ steps) (mem : (id, first) ∈ s.shapes) :
        (id, first) ∈ steps.flatMap Step.shapes :=
      List.mem_flatMap.mpr ⟨s, hs, mem⟩
    cases asked with
    | service hs => exact ⟨_, given hs (List.mem_singleton_self _), rfl⟩
    | operation hs => exact ⟨_, given hs (List.mem_cons_self ..), rfl⟩
    | input hs => exact ⟨_, given hs (List.mem_cons_of_mem _ (List.mem_singleton_self _)), rfl⟩
    | protocolDefinition hs => exact ⟨_, given hs (List.mem_singleton_self _), rfl⟩

end Draft

end Cratewright
