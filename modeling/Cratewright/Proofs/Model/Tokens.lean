/-
Whether a service needs an idempotency token.

The operations of a service are asked in order, and only up to the first that takes a token. So
whether an unknown operation is noticed depends on where it stands:

* `Model.plain_or_decides`, `Model.anyToken_iff` — the first operation that is not plain decides;
* `Model.needsIdempotencyToken_iff` — each of the three answers, with the exact condition for it;
* `Model.not_forall_reports_unknown` — a service with an unknown operation that is not
  noticed.
-/
import Cratewright.Proofs.Model.Reachability

namespace Cratewright

namespace Model

variable {m : Model}

def IsOperation (m : Model) (id : ShapeId) : Prop := ∃ s, m.shapes.find? id = some (.operation s)

/-! ### Single operations -/

theorem TakesToken.isOperation {o : ShapeId} (h : m.TakesToken o) : m.IsOperation o := by
  obtain ⟨s, -, -, -, -, hs, -⟩ := h
  exact ⟨s, hs⟩

theorem inputMembers_of_not_isOperation {o : ShapeId} (h : ¬ m.IsOperation o) :
    m.inputMembers o = .error (.unknownShape o.text) := by
  rw [inputMembers, shape]
  cases hs : m.shapes.find? o with
  | none => rfl
  | some shape =>
    cases shape with
    | operation s => exact absurd ⟨s, hs⟩ h
    | _ => rfl

theorem exists_inputMembers {o : ShapeId} (h : m.IsOperation o) :
    ∃ members, m.inputMembers o = .ok members ∧
      (members.any (·.traits.contains idempotencyTokenTrait) = true ↔ m.TakesToken o) := by
  rcases m.inputMembers_cases o with known | ⟨id, unknown⟩
  · exact known
  · obtain ⟨s, hs⟩ := h
    by_cases struct : ∃ input t, s.input = some input ∧ m.shapes.find? input = some (.struct t)
    · obtain ⟨input, t, hinput, ht⟩ := struct
      rw [inputMembers_of_struct hs hinput ht] at unknown
      cases unknown
    · have none : m.inputMembers o = .ok [] :=
        inputMembers_of_no_struct hs fun input t hinput ht => struct ⟨input, t, hinput, ht⟩
      rw [none] at unknown
      cases unknown

/-- An operation without a token leaves the answer to those that follow. -/
theorem anyToken_cons_of_not_takesToken {o : ShapeId} (known : m.IsOperation o)
    (h : ¬ m.TakesToken o) (rest : List ShapeId) : m.anyToken (o :: rest) = m.anyToken rest := by
  obtain ⟨members, hm, takes⟩ := exists_inputMembers known
  rw [anyToken, hm]
  exact if_neg (mt takes.mp h)

theorem anyToken_cons_of_takesToken {o : ShapeId} (h : m.TakesToken o) (rest : List ShapeId) :
    m.anyToken (o :: rest) = .ok true := by
  obtain ⟨members, hm, takes⟩ := exists_inputMembers h.isOperation
  rw [anyToken, hm]
  exact if_pos (takes.mpr h)

theorem anyToken_cons_of_not_isOperation {o : ShapeId} (h : ¬ m.IsOperation o)
    (rest : List ShapeId) : m.anyToken (o :: rest) = .error (.unknownShape o.text) := by
  rw [anyToken, inputMembers_of_not_isOperation h]
  rfl

/-! ### Lists of operations -/

/-- An operation is known and takes no token. -/
def IsPlain (m : Model) (o : ShapeId) : Prop := m.IsOperation o ∧ ¬ m.TakesToken o

/-- An operation is the first that is not plain. -/
structure Decides (m : Model) (operations : List ShapeId) (o : ShapeId) : Prop where
  mem : o ∈ operations
  special : ¬ m.IsPlain o
  least : ∀ q ∈ operations, ¬ m.IsPlain q → q ≠ o → compare o q = .lt

/-- In a list in order, the first operation that is not plain gives the answer. If it is known then
it takes a token, and otherwise it is reported. -/
theorem plain_or_decides {operations : List ShapeId}
    (sorted : operations.Pairwise fun a b => compare a b = .lt) :
    ((∀ p ∈ operations, m.IsPlain p) ∧ m.anyToken operations = .ok false) ∨
    ∃ o, m.Decides operations o ∧
      (m.TakesToken o ∧ m.anyToken operations = .ok true ∨
        ¬ m.IsOperation o ∧ m.anyToken operations = .error (.unknownShape o.text)) := by
  induction operations with
  | nil => exact .inl ⟨by simp, rfl⟩
  | cons p rest ih =>
    obtain ⟨below, sorted⟩ := List.pairwise_cons.mp sorted
    by_cases plain : m.IsPlain p
    · -- The first operation does not matter, so the answer is that of the others.
      rw [anyToken_cons_of_not_takesToken plain.1 plain.2]
      rcases ih sorted with ⟨all, answer⟩ | ⟨o, decides, answer⟩
      · refine .inl ⟨fun q hq => ?_, answer⟩
        rcases List.mem_cons.mp hq with rfl | hq
        · exact plain
        · exact all q hq
      · refine .inr ⟨o, ⟨List.mem_cons_of_mem _ decides.mem, decides.special, ?_⟩, answer⟩
        intro q hq special ne
        rcases List.mem_cons.mp hq with rfl | hq
        · exact absurd plain special
        · exact decides.least q hq special ne
    · refine .inr ⟨p, ⟨List.mem_cons_self .., plain, ?_⟩, ?_⟩
      · intro q hq _ ne
        exact below q ((List.mem_cons.mp hq).resolve_left ne)
      · -- An operation that is not plain is unknown, or takes a token; both end the search here.
        by_cases known : m.IsOperation p
        · have takes : m.TakesToken p := by
            by_contra none
            exact plain ⟨known, none⟩
          exact .inl ⟨takes, anyToken_cons_of_takesToken takes rest⟩
        · exact .inr ⟨known, anyToken_cons_of_not_isOperation known rest⟩

theorem not_lt_of_lt {a b : ShapeId} (h : compare a b = .lt) : compare b a ≠ .lt := by
  intro h'
  have self := Std.TransCmp.lt_trans h h'
  rw [Std.ReflOrd.compare_self] at self
  cases self

section Decides

variable {operations : List ShapeId} {o p : ShapeId} (h : m.Decides operations o)
  (hp : p ∈ operations)

include h hp

theorem Decides.lt_of_takesToken (unknown : ¬ m.IsOperation o) (takes : m.TakesToken p) :
    compare o p = .lt := by
  have ne : p ≠ o := by
    rintro rfl
    exact unknown takes.isOperation
  exact h.least p hp (fun plain => plain.2 takes) ne

theorem Decides.lt_of_not_isOperation (takes : m.TakesToken o) (unknown : ¬ m.IsOperation p) :
    compare o p = .lt := by
  have ne : p ≠ o := by
    rintro rfl
    exact unknown takes.isOperation
  exact h.least p hp (fun plain => unknown plain.1) ne

end Decides

/-- The answers of a list in order, with what each of them says about the list. -/
theorem anyToken_iff {operations : List ShapeId}
    (sorted : operations.Pairwise fun a b => compare a b = .lt) :
    ((∃ id, m.anyToken operations = .error (.unknownShape id)) ↔
      ∃ o ∈ operations, ¬ m.IsOperation o ∧
        ∀ p ∈ operations, m.TakesToken p → compare o p = .lt) ∧
    (m.anyToken operations = .ok true ↔
      ∃ p ∈ operations, m.TakesToken p ∧
        ∀ o ∈ operations, ¬ m.IsOperation o → compare p o = .lt) ∧
    (m.anyToken operations = .ok false ↔ ∀ o ∈ operations, m.IsPlain o) := by
  rcases plain_or_decides sorted (m := m) with
    ⟨plain, answer⟩ | ⟨o, decides, ⟨takes, answer⟩ | ⟨unknown, answer⟩⟩
  · rw [answer]
    refine ⟨iff_of_false (by simp) ?_, iff_of_false (by simp) ?_, iff_of_true rfl plain⟩
    · rintro ⟨o, ho, unknown, -⟩
      exact unknown (plain o ho).1
    · rintro ⟨p, hp, takes, -⟩
      exact (plain p hp).2 takes
  · rw [answer]
    refine ⟨iff_of_false (by simp) ?_, iff_of_true rfl ?_, iff_of_false (by simp) ?_⟩
    · rintro ⟨q, hq, unknown, first⟩
      exact not_lt_of_lt (decides.lt_of_not_isOperation hq takes unknown) (first o decides.mem takes)
    · exact ⟨o, decides.mem, takes, fun q hq unknown =>
        decides.lt_of_not_isOperation hq takes unknown⟩
    · intro plain
      exact decides.special (plain o decides.mem)
  · rw [answer]
    refine ⟨iff_of_true ⟨_, rfl⟩ ?_, iff_of_false (by simp) ?_, iff_of_false (by simp) ?_⟩
    · exact ⟨o, decides.mem, unknown, fun p hp takes =>
        decides.lt_of_takesToken hp unknown takes⟩
    · rintro ⟨p, hp, takes, first⟩
      exact not_lt_of_lt (decides.lt_of_takesToken hp unknown takes) (first o decides.mem unknown)
    · intro plain
      exact decides.special (plain o decides.mem)

/-- Operations that are all known tell whether one of them takes a token. -/
theorem anyToken_of_known {operations : List ShapeId}
    (sorted : operations.Pairwise fun a b => compare a b = .lt)
    (known : ∀ o ∈ operations, m.IsOperation o) :
    ∃ needed, m.anyToken operations = .ok needed ∧
      (needed = true ↔ ∃ o ∈ operations, m.TakesToken o) := by
  rcases m.anyToken_cases operations with answer | failed
  · exact answer
  · obtain ⟨o, ho, unknown, -⟩ := (anyToken_iff sorted).1.mp failed
    exact absurd (known o ho) unknown

/-! ### Services -/

/-- An unknown shape is reported if the service cannot be resolved, or if an unknown operation comes
before all that take a token. A token is found if an operation that takes one comes before all that
are unknown. And no token is needed if all operations are known and take none. -/
theorem needsIdempotencyToken_iff (m : Model) (service : ShapeId) :
    ((∃ id, m.needsIdempotencyToken service = .error (.unknownShape id)) ↔
      ¬ m.Resolves service ∨ ∃ o, m.Offers service o ∧ ¬ m.IsOperation o ∧
        ∀ p, m.Offers service p → m.TakesToken p → compare o p = .lt) ∧
    (m.needsIdempotencyToken service = .ok true ↔
      m.Resolves service ∧ ∃ p, m.Offers service p ∧ m.TakesToken p ∧
        ∀ o, m.Offers service o → ¬ m.IsOperation o → compare p o = .lt) ∧
    (m.needsIdempotencyToken service = .ok false ↔
      m.Resolves service ∧ ∀ o, m.Offers service o → m.IsOperation o ∧ ¬ m.TakesToken o) := by
  rw [needsIdempotencyToken]
  rcases m.resolves_or_dangles service with ⟨operations, found, resolved, sorted⟩ | ⟨id, same, why⟩
  · have offers (o : ShapeId) : m.Offers service o ↔ o ∈ operations :=
      offers_iff.trans (mem_operations_iff found).symm
    simp only [found, offers, resolved, not_true_eq_false, false_or, true_and]
    exact anyToken_iff sorted
  · have unresolved := why.not_resolves
    rw [same]
    show ((∃ id, Except.error _ = _) ↔ _) ∧ (Except.error _ = _ ↔ _) ∧ (Except.error _ = _ ↔ _)
    simp [unresolved]

/-! ### An unknown operation that is not noticed -/

/-- A service whose operation `ask` takes a token, and whose operation `set` does not exist. -/
def halfKnownModel : Model where
  shapes := SortedMap.ofList [
    (⟨"time", "Clock", none⟩, .service
      { operations := [⟨"time", "ask", none⟩, ⟨"time", "set", none⟩] }),
    (⟨"time", "ask", none⟩, .operation { input := some ⟨"time", "AskInput", none⟩ }),
    (⟨"time", "AskInput", none⟩, .struct { members := SortedMap.ofList [
      ("token", ⟨⟨"smithy.api", "String", none⟩,
        SortedMap.ofList [(idempotencyTokenTrait, .object [])]⟩)] })]

theorem needsIdempotencyToken_halfKnownModel :
    halfKnownModel.needsIdempotencyToken ⟨"time", "Clock", none⟩ = .ok true := by
  have found : halfKnownModel.operations ⟨"time", "Clock", none⟩
      = .ok [⟨"time", "ask", none⟩, ⟨"time", "set", none⟩] := by
    show (halfKnownModel.walk _ (SortedSet.ofList _) [] >>= _) = _
    rw [Model.walk]
    rfl
  rw [needsIdempotencyToken, found]
  rfl

/-- It is not so that an unknown shape is reported whenever an operation is unknown. -/
theorem not_forall_reports_unknown :
    ¬ ∀ (m : Model) (service : ShapeId),
      (∃ id, m.needsIdempotencyToken service = .error (.unknownShape id)) ↔
        ¬ m.Resolves service ∨ ∃ o, m.Offers service o ∧ ¬ m.IsOperation o := by
  intro reported
  have unknown : ¬ halfKnownModel.IsOperation ⟨"time", "set", none⟩ := by
    rintro ⟨s, hs⟩
    cases hs
  have offered : halfKnownModel.Offers ⟨"time", "Clock", none⟩ ⟨"time", "set", none⟩ :=
    .own rfl (List.mem_cons_of_mem _ (List.mem_cons_self ..))
  obtain ⟨id, answer⟩ := (reported _ _).mpr (.inr ⟨_, offered, unknown⟩)
  rw [needsIdempotencyToken_halfKnownModel] at answer
  cases answer

end Model

end Cratewright
