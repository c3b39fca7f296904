/-
What the models of drafts answer.

The document of a draft is read as a model, and the model answers what the steps of the draft ask
for. The steps tell which shapes it has, and each question reads off a few of them:

* `Draft.find?_model_ofSteps` — the shapes of the model;
* `Draft.services_model`, `Draft.operations_model`, `Draft.members_model`, `Draft.protocols_model`,
  `Draft.tokens_model` — the answers, one by one;
* `Draft.exists_means` — all of them;
* `Draft.not_forall_defined` — a service that is a protocol without a definition.
-/
import Cratewright.Proofs.Model.DraftDocuments
import Cratewright.Proofs.Model.Drafts
import Cratewright.Proofs.Model.Listings
import Cratewright.Proofs.Model.Tokens

namespace Cratewright

namespace ShapeId

theorem compare_withMember {id : ShapeId} {a b : String} (h : compare a b = .lt) :
    compare (id.withMember a) (id.withMember b) = .lt :=
  compare_eq_lt_iff.mpr (.inr ⟨rfl, .inr ⟨rfl, h⟩⟩)

/-- The name of an input is that of an operation with letters at its end. -/
theorem isWritten_inputOf {s : String} (h : IsWritten s) : IsWritten (Draft.inputOf s) := by
  obtain ⟨⟨space, name, member⟩, read⟩ := h
  obtain ⟨⟨spaced, named, membered⟩, rfl⟩ := parse_eq_ok_iff.mp read
  have longer {w : List Char} (hw : w ∈ names) : w ++ "Input".toList ∈ names := by
    refine ⟨by simp [hw.1], fun c hc => ?_⟩
    rcases List.mem_append.mp hc with first | last
    · exact hw.2 c first
    · exact isNameChar_iff.mp (List.all_eq_true.mp (by decide) c last)
  cases member with
  | none =>
    refine ⟨⟨space, name ++ "Input", none⟩, parse_eq_ok_iff.mpr ⟨⟨spaced, ?_, by simp⟩, ?_⟩⟩
    · simpa using longer named
    · simp [text, Draft.inputOf, String.append_assoc]
  | some m =>
    refine ⟨⟨space, name, some (m ++ "Input")⟩, parse_eq_ok_iff.mpr ⟨⟨spaced, named, ?_⟩, ?_⟩⟩
    · rintro _ ⟨⟩
      simpa using longer (membered m rfl)
    · simp [text, Draft.inputOf, String.append_assoc]

end ShapeId

namespace Draft

/-! ### The shapes of the model -/

/-- The identifiers that a step names on its own account. -/
def Step.names : Step → List String
  | service id protocols => id :: protocols
  | operation _ id _ => [id]
  | protocolDefinition id => [id]

/-- The steps are orderly, and name well-formed identifiers. -/
structure IsSound (steps : List Step) : Prop extends IsOrderly steps where
  written : ∀ s ∈ steps, ∀ id ∈ s.names, ShapeId.IsWritten id

section Sound

variable {steps : List Step} (h : IsSound steps)

include h

theorem IsSound.isWritten_operation {owner id : String} {members : List (String × Bool)}
    (hs : Step.operation owner id members ∈ steps) : ShapeId.IsWritten id :=
  h.written _ hs id (List.mem_singleton_self _)

theorem IsSound.isWritten_protocols {id : String} {protocols : List String}
    (hs : Step.service id protocols ∈ steps) :
    ∀ p ∈ (SortedSet.ofList protocols).toList, ShapeId.IsWritten p := by
  intro p hp
  exact h.written _ hs p (List.mem_cons_of_mem _ (SortedSet.mem_toList_ofList.mp hp))

theorem IsSound.isValid : (ofSteps steps).IsValid := by
  rintro ⟨id, shape⟩ he
  have asked := (find?_ofSteps_iff h.toIsOrderly).mp (SortedMap.find?_eq_some_iff.mpr he)
  cases asked with
  | service hs =>
    refine ⟨h.written _ hs id (List.mem_cons_self ..), h.isWritten_protocols hs, fun o ho => ?_⟩
    obtain ⟨members, ho⟩ := mem_bound_iff.mp ho
    exact h.isWritten_operation ho
  | operation hs =>
    have written := h.isWritten_operation hs
    exact ⟨written, ShapeId.isWritten_inputOf written⟩
  | input hs => exact ⟨ShapeId.isWritten_inputOf (h.isWritten_operation hs), trivial⟩
  | protocolDefinition hs => exact ⟨h.written _ hs id (List.mem_singleton_self _), trivial⟩

/-- The model has the shapes that the steps ask for, and no others. -/
theorem find?_model_ofSteps {t : ShapeId} {shape : Shape} :
    (ofSteps steps).model.shapes.find? t = some shape ↔
      ∃ id asked, Asks steps id asked ∧ ShapeId.parse id = .ok t ∧ asked.toShape = shape := by
  simp only [find?_model_iff h.isValid, find?_ofSteps_iff h.toIsOrderly]

theorem find?_of_asks {id : String} {asked : DraftShape} {t : ShapeId} (ha : Asks steps id asked)
    (ht : ShapeId.parse id = .ok t) :
    (ofSteps steps).model.shapes.find? t = some asked.toShape :=
  (find?_model_ofSteps h).mpr ⟨id, asked, ha, ht, rfl⟩

end Sound

/-! ### What is asked for -/

/-- The identifiers that have a property are listed in order, and no others. -/
def Lists (ids : List ShapeId) (p : ShapeId → Prop) : Prop :=
  ids.Pairwise (fun a b => compare a b = .lt) ∧ ∀ id, id ∈ ids ↔ p id

/-- The last flag that is given for a member. -/
def LastFlag (members : List (String × Bool)) (name : String) (isToken : Bool) : Prop :=
  ∃ before after, members = before ++ (name, isToken) :: after ∧ ∀ e ∈ after, e.1 ≠ name

/-- A member of an input as the answer to a question. -/
def listedMember (input : ShapeId) (name : String) (isToken : Bool) : InputMember :=
  ⟨input.withMember name, ⟨"smithy.api", "String", none⟩,
    if isToken then [idempotencyTokenTrait] else []⟩

/-- The members of an input are listed in order, each with its last flag. -/
def ListsMembers (listed : List InputMember) (input : ShapeId) (members : List (String × Bool)) :
    Prop :=
  listed.Pairwise (fun a b => compare a.id b.id = .lt) ∧
    ∀ x, x ∈ listed ↔
      ∃ name isToken, LastFlag members name isToken ∧ listedMember input name isToken = x

/-- A protocol is one of those that are listed. -/
def IsListed (protocols : List String) (t : ShapeId) : Prop :=
  ∃ p ∈ protocols, ShapeId.parse p = .ok t

section Steps

variable (steps : List Step)

/-- A step adds the service. -/
def AddsService (t : ShapeId) : Prop :=
  ∃ id protocols, Step.service id protocols ∈ steps ∧ ShapeId.parse id = .ok t

/-- A step adds the operation and binds it to the service. -/
def AddsOperation (service : String) (o : ShapeId) : Prop :=
  ∃ id members, Step.operation service id members ∈ steps ∧ ShapeId.parse id = .ok o

/-- A step adds an operation with a token and binds it to the service. -/
def AddsToken (service : String) : Prop :=
  ∃ id members name, Step.operation service id members ∈ steps ∧ LastFlag members name true

/-- A step adds the definition of the protocol. -/
def Defines (t : ShapeId) : Prop :=
  ∃ id, Step.protocolDefinition id ∈ steps ∧ ShapeId.parse id = .ok t

/-- A step adds a service that lists the trait of protocols as a protocol of its own. -/
def Marks (t : ShapeId) : Prop :=
  ∃ id protocols, Step.service id protocols ∈ steps ∧ ShapeId.parse id = .ok t ∧
    IsListed protocols protocolDefinitionTrait

end Steps

/-- A model answers what the steps ask for. Of the protocols, some are known and some defined. -/
structure Means (steps : List Step) (defined : ShapeId → Prop) (m : Model) : Prop where
  services : Lists m.serviceIds (AddsService steps)
  operations : ∀ id protocols t, Step.service id protocols ∈ steps → ShapeId.parse id = .ok t →
    ∃ ids, m.operations t = .ok ids ∧ Lists ids (AddsOperation steps id)
  members : ∀ owner id members t, Step.operation owner id members ∈ steps →
    ShapeId.parse id = .ok t →
    ∃ input listed, ShapeId.parse (inputOf id) = .ok input ∧ m.inputMembers t = .ok listed ∧
      ListsMembers listed input members
  protocols : ∀ id protocols t, Step.service id protocols ∈ steps → ShapeId.parse id = .ok t →
    ∃ ids, m.serviceProtocols t = .ok ids ∧ Lists ids fun p =>
      IsListed protocols p ∧ (Model.IsKnownProtocol p ∨ defined p)
  tokens : ∀ id protocols t, Step.service id protocols ∈ steps → ShapeId.parse id = .ok t →
    ∃ needed, m.needsIdempotencyToken t = .ok needed ∧ (needed = true ↔ AddsToken steps id)

/-! ### The answers -/

section Answers

variable {steps : List Step} (h : IsSound steps)

include h

theorem services_model : Lists (ofSteps steps).model.serviceIds (AddsService steps) := by
  refine ⟨Model.Listing.services.sorted, fun t => Model.mem_serviceIds_iff.trans ?_⟩
  constructor
  · rintro ⟨s, hs⟩
    obtain ⟨id, asked, ha, ht, same⟩ := (find?_model_ofSteps h).mp hs
    cases ha with
    | service hs => exact ⟨id, _, hs, ht⟩
    | _ => cases same
  · rintro ⟨id, protocols, hs, ht⟩
    exact ⟨_, find?_of_asks h (.service hs) ht⟩

/-- The protocols of a service are its traits. -/
theorem mem_knownTraits_service {id : String} {protocols operations : List String} {p : ShapeId}
    (hs : Step.service id protocols ∈ steps) :
    p ∈ (DraftShape.service (SortedSet.ofList protocols) operations).toShape.knownTraits.keys ↔
      IsListed protocols p := by
  refine (mem_keys_traitsOf (h.isWritten_protocols hs)).trans ?_
  simp only [SortedSet.mem_toList_ofList, IsListed]

/-- A shape defines a protocol if a step says so. Services do it with their protocols. -/
theorem definesProtocol_model_iff {t : ShapeId} :
    (ofSteps steps).model.DefinesProtocol t ↔ Defines steps t ∨ Marks steps t := by
  constructor
  · rintro ⟨s, found, mem⟩
    obtain ⟨id, asked, ha, ht, rfl⟩ := (find?_model_ofSteps h).mp found
    cases ha with
    | service hs => exact .inr ⟨id, _, hs, ht, (mem_knownTraits_service h hs).mp mem⟩
    | protocolDefinition hs => exact .inl ⟨id, hs, ht⟩
    -- Operations and their inputs have no traits.
    | _ => exact absurd mem List.not_mem_nil
  · rintro (⟨id, hs, ht⟩ | ⟨id, protocols, hs, ht, marked⟩)
    · refine ⟨_, find?_of_asks h (.protocolDefinition hs) ht, ?_⟩
      refine (mem_keys_traitsOf isWritten_marks).mpr ⟨protocolDefinitionTrait.text, ?_, ?_⟩
      · exact SortedSet.mem_toList_ofList.mpr (List.mem_cons_self ..)
      · decide +kernel
    · exact ⟨_, find?_of_asks h (.service hs) ht, (mem_knownTraits_service h hs).mpr marked⟩

section Operation

variable {owner id : String} {members : List (String × Bool)} {t : ShapeId}
  (hs : Step.operation owner id members ∈ steps) (ht : ShapeId.parse id = .ok t)

include hs

theorem parse_input : ShapeId.parse (inputOf id) = .ok (ShapeId.ofText (inputOf id)) :=
  (ShapeId.isWritten_inputOf (h.isWritten_operation hs)).parse_eq

include ht

theorem members_model :
    ∃ input listed, ShapeId.parse (inputOf id) = .ok input ∧
      (ofSteps steps).model.inputMembers t = .ok listed ∧ ListsMembers listed input members := by
  have found := Model.inputMembers_of_struct (find?_of_asks h (.operation hs) ht) rfl
    (find?_of_asks h (.input hs) (parse_input h hs))
  have shown (input : ShapeId) (name : String) (isToken : Bool) :
      ⟨input.withMember name, (inputMember isToken).target, (inputMember isToken).traits.keys⟩
        = listedMember input name isToken := by
    cases isToken <;> rfl
  simp only [SortedMap.mapValues, List.map_map, Function.comp_def, shown] at found
  refine ⟨_, _, parse_input h hs, found, ?_, fun x => ?_⟩
  · refine List.pairwise_map.mpr ?_
    exact (SortedMap.ofList members).sorted.imp ShapeId.compare_withMember
  · simp only [LastFlag, ← SortedMap.find?_ofList_iff_last, SortedMap.find?_eq_some_iff,
      List.mem_map, Prod.exists]

theorem takesToken_model_iff :
    (ofSteps steps).model.TakesToken t ↔ ∃ name, LastFlag members name true := by
  have operation := find?_of_asks h (.operation hs) ht
  have input := find?_of_asks h (.input hs) (parse_input h hs)
  constructor
  · rintro ⟨s, _, u, name, member, hs', hinput, hu, hmember, token⟩
    cases operation.symm.trans hs'
    cases hinput
    cases input.symm.trans hu
    rw [SortedMap.find?_mapValues, Option.map_eq_some_iff] at hmember
    obtain ⟨isToken, last, rfl⟩ := hmember
    cases isToken with
    | true => exact ⟨name, SortedMap.find?_ofList_iff_last.mp last⟩
    | false => cases token
  · rintro ⟨name, last⟩
    refine ⟨_, _, _, name, inputMember true, operation, rfl, input, ?_, rfl⟩
    rw [SortedMap.find?_mapValues, SortedMap.find?_ofList_iff_last.mpr last]
    rfl

end Operation

section Service

variable {id : String} {protocols : List String} {t : ShapeId}
  (hs : Step.service id protocols ∈ steps) (ht : ShapeId.parse id = .ok t)

include hs ht

theorem operations_model :
    ∃ ids, (ofSteps steps).model.operations t = .ok ids ∧
      Lists ids (AddsOperation steps id) := by
  have found := Model.operations_of_no_resources (find?_of_asks h (.service hs) ht) rfl
  refine ⟨_, found, (Model.Listing.operations found).sorted, fun o => ?_⟩
  rw [SortedSet.mem_toList_ofList, List.mem_map]
  constructor
  · rintro ⟨name, bound, rfl⟩
    obtain ⟨members, ho⟩ := mem_bound_iff.mp bound
    exact ⟨name, members, ho, (h.isWritten_operation ho).parse_eq⟩
  · rintro ⟨name, members, ho, read⟩
    exact ⟨name, mem_bound_iff.mpr ⟨members, ho⟩, ShapeId.ofText_of_parse read⟩

theorem protocols_model :
    ∃ ids, (ofSteps steps).model.serviceProtocols t = .ok ids ∧ Lists ids fun p =>
      IsListed protocols p ∧ (Model.IsKnownProtocol p ∨ Defines steps p ∨ Marks steps p) := by
  have service := find?_of_asks h (.service hs) ht
  have found : (ofSteps steps).model.serviceProtocols t = .ok _ :=
    Model.serviceProtocols_eq_ok_iff.mpr ⟨_, Model.traits_eq_ok_iff.mpr ⟨_, service, rfl⟩, rfl⟩
  refine ⟨_, found, (Model.Listing.protocols found).sorted, fun p => ?_⟩
  rw [Model.mem_serviceProtocols_iff found, Model.Declares, definesProtocol_model_iff h]
  refine and_congr_left fun _ => ?_
  constructor
  · rintro ⟨s, hs', mem⟩
    cases service.symm.trans hs'
    exact (mem_knownTraits_service h hs).mp mem
  · intro listed
    exact ⟨_, service, (mem_knownTraits_service h hs).mpr listed⟩

theorem tokens_model :
    ∃ needed, (ofSteps steps).model.needsIdempotencyToken t = .ok needed ∧
      (needed = true ↔ AddsToken steps id) := by
  obtain ⟨ids, found, sorted, listed⟩ := operations_model h hs ht
  have known : ∀ o ∈ ids, (ofSteps steps).model.IsOperation o := by
    intro o ho
    obtain ⟨name, members, hop, read⟩ := (listed o).mp ho
    exact ⟨_, find?_of_asks h (.operation hop) read⟩
  -- No operation is unknown, so the search goes on until a token is found.
  obtain ⟨needed, answer, takes⟩ := Model.anyToken_of_known sorted known
  refine ⟨needed, ?_, takes.trans ?_⟩
  · rw [Model.needsIdempotencyToken, found]
    exact answer
  · constructor
    · rintro ⟨o, ho, token⟩
      obtain ⟨name, members, hop, read⟩ := (listed o).mp ho
      obtain ⟨member, last⟩ := (takesToken_model_iff h hop read).mp token
      exact ⟨name, members, member, hop, last⟩
    · rintro ⟨name, members, member, hop, last⟩
      have read := (h.isWritten_operation hop).parse_eq
      exact ⟨_, (listed _).mpr ⟨name, members, hop, read⟩,
        (takesToken_model_iff h hop read).mpr ⟨member, last⟩⟩

end Service

end Answers

/-- Drafts mean what was asked for. If the steps are orderly and name well-formed identifiers, the
document of their draft is read as a model whose answers are those of the steps. A protocol of a
service counts as defined if a step adds its definition, or adds a service of this identifier that
lists the trait of protocols itself. -/
theorem exists_means {steps : List Step} (h : IsSound steps) :
    ∃ m, Model.parse (ofSteps steps).text = .ok m ∧
      Means steps (fun t => Defines steps t ∨ Marks steps t) m := by
  refine ⟨_, parse_text h.isValid, ?_⟩
  constructor
  case services => exact services_model h
  case operations => exact fun _ _ _ hs ht => operations_model h hs ht
  case members => exact fun _ _ _ _ hs ht => members_model h hs ht
  case protocols => exact fun _ _ _ hs ht => protocols_model h hs ht
  case tokens => exact fun _ _ _ hs ht => tokens_model h hs ht

/-- A service with three protocols, of which one is known and one defined, and with an operation
whose members are given twice. -/
def clockSteps : List Step := [
  .protocolDefinition "time#wire",
  .service "time#Clock" ["time#wire", "time#chime", "aws.protocols#restJson1"],
  .operation "time#Clock" "time#Set" [("zone", true), ("token", false), ("zone", false),
    ("token", true)]]

theorem exists_means_clock :
    IsSound clockSteps ∧ ∃ m, Model.parse (ofSteps clockSteps).text = .ok m ∧
      Means clockSteps (fun t => Defines clockSteps t ∨ Marks clockSteps t) m ∧
      m.needsIdempotencyToken ⟨"time", "Clock", none⟩ = .ok true := by
  have sound : IsSound clockSteps :=
    { distinct := by decide
      ordered := by simp [clockSteps, Step.bound]
      written := by decide +kernel }
  obtain ⟨m, read, means⟩ := exists_means sound
  obtain ⟨needed, answer, takes⟩ := means.tokens "time#Clock" _ ⟨"time", "Clock", none⟩
    (List.mem_cons_of_mem _ (List.mem_cons_self ..)) (by decide +kernel)
  have token : AddsToken clockSteps "time#Clock" :=
    ⟨"time#Set", _, "token", List.mem_of_getLast? rfl, [_, _, _], [], rfl, by simp⟩
  rw [takes.mpr token] at answer
  exact ⟨sound, m, read, means, answer⟩

/-- A service that lists the trait of protocols, and one that lists the first as a protocol. -/
def tickSteps : List Step := [
  .service "time#Tick" [protocolDefinitionTrait.text],
  .service "time#Clock" ["time#Tick"]]

/-- It is not so that definitions alone define protocols. -/
theorem not_forall_defined :
    ¬ ∀ steps, IsSound steps →
      ∃ m, Model.parse (ofSteps steps).text = .ok m ∧ Means steps (Defines steps) m := by
  intro defined
  have sound : IsSound tickSteps :=
    { distinct := by decide
      ordered := by simp [tickSteps, Step.bound]
      written := by decide +kernel }
  obtain ⟨m, read, means⟩ := defined tickSteps sound
  cases (parse_text sound.isValid).symm.trans read
  have clock : Step.service "time#Clock" ["time#Tick"] ∈ tickSteps :=
    List.mem_cons_of_mem _ (List.mem_cons_self ..)
  have named : ShapeId.parse "time#Clock" = .ok ⟨"time", "Clock", none⟩ := by decide +kernel
  have tick : ShapeId.parse "time#Tick" = .ok ⟨"time", "Tick", none⟩ := by decide +kernel
  have trait : ShapeId.parse protocolDefinitionTrait.text = .ok protocolDefinitionTrait := by
    decide +kernel
  have listed : IsListed ["time#Tick"] ⟨"time", "Tick", none⟩ :=
    ⟨_, List.mem_cons_self .., tick⟩
  have marks : Marks tickSteps ⟨"time", "Tick", none⟩ :=
    ⟨_, _, List.mem_cons_self .., tick, _, List.mem_cons_self .., trait⟩
  -- Both lists are the answer of the same model, so the second says what the first has.
  obtain ⟨ids, found, -, answer⟩ := means.protocols _ _ _ clock named
  obtain ⟨_, found', -, answer'⟩ := protocols_model sound clock named
  cases found.symm.trans found'
  obtain ⟨-, known | ⟨id, definition, -⟩⟩ :=
    (answer _).mp ((answer' _).mpr ⟨listed, .inr (.inr marks)⟩)
  · exact absurd known.1 (by decide)
  · simp [tickSteps] at definition

end Draft

end Cratewright
