/-
Two readings of one text.

Where one reader makes something of a text, another may make something else of it up to the same
place. Readers that do so for every part do so for the whole: for the elements of a list, for the
fields of an object, for maps and for records. The second may take more steps:

* `Json.Follows` — what the second makes of a text is related to what the first makes of it;
* `Json.follows_foldElements`, `Json.follows_foldFields` — elements and fields;
* `Json.length_of_readChars` — a text that was read is shorter without what was read;
* `Json.readValue_list_cons` — a list, from its first element and the others;
* `Json.follows_readMap` — maps, key by key;
* `Json.Layout.View.follows_read` — records.
-/
import Mathlib.Data.List.DropRight
import Cratewright.Proofs.Json.Records
import Cratewright.Proofs.SortedMap

namespace Cratewright.Json

section Follows

variable {α β γ δ : Type} {R : α → β → Prop} {S : γ → δ → Prop}

/-- Where the first outcome is a result, the second is a related one at the same place. -/
def Follows (R : α → β → Prop) (x : Except Fault (α × List Char))
    (y : Except Fault (β × List Char)) : Prop :=
  ∀ a rest, x = .ok (a, rest) → ∃ b, y = .ok (b, rest) ∧ R a b

theorem follows_error (fault : Fault) (y : Except Fault (β × List Char)) :
    Follows R (.error fault) y := fun _ _ h => by cases h

theorem follows_ok {a : α} {b : β} (h : R a b) (rest : List Char) :
    Follows R (.ok (a, rest)) (.ok (b, rest)) := by
  intro a' rest' same
  cases same
  exact ⟨b, rfl, h⟩

theorem follows_self (x : Except Fault (α × List Char)) : Follows Eq x x :=
  fun a _ h => ⟨a, h, rfl⟩

/-- What follows on related results at the same place. -/
theorem Follows.bind {x : Except Fault (α × List Char)} {y : Except Fault (β × List Char)}
    {f : α × List Char → Except Fault (γ × List Char)}
    {g : β × List Char → Except Fault (δ × List Char)} (h : Follows R x y)
    (next : ∀ a b rest, R a b → Follows S (f (a, rest)) (g (b, rest))) :
    Follows S (x >>= f) (y >>= g) := by
  intro c rest read
  obtain ⟨⟨a, s⟩, one, others⟩ := Except.bind_eq_ok_iff.mp read
  obtain ⟨b, found, related⟩ := h a s one
  rw [found]
  exact next a b s related c rest others

/-- What follows on a step that both readers take. -/
theorem follows_bind {ε : Type} (x : Except Fault ε) {f : ε → Except Fault (γ × List Char)}
    {g : ε → Except Fault (δ × List Char)} (next : ∀ a, Follows S (f a) (g a)) :
    Follows S (x >>= f) (x >>= g) := by
  cases x with
  | error fault => exact follows_error fault _
  | ok a => exact next a

theorem Follows.map {x : Except Fault (α × List Char)} {y : Except Fault (β × List Char)}
    {f : α → γ} {g : β → δ} (h : Follows R x y) (next : ∀ a b, R a b → S (f a) (g b)) :
    Follows S (x.map fun p => (f p.1, p.2)) (y.map fun p => (g p.1, p.2)) := by
  intro c rest read
  obtain ⟨⟨a, s⟩, one, same⟩ := Except.map_eq_ok_iff.mp read
  cases same
  obtain ⟨b, found, related⟩ := h a s one
  rw [found]
  exact ⟨g b, rfl, next a b related⟩

/-- What is read of a whole document. -/
theorem exists_of_readDocument {step : List Char → Except Fault (α × List Char)}
    {step' : List Char → Except Fault (β × List Char)} {document : String} {a : α}
    (h : Follows R (step document.toList) (step' document.toList))
    (read : readDocument step document = .ok a) :
    ∃ b, readDocument step' document = .ok b ∧ R a b := by
  obtain ⟨⟨_, rest⟩, one, read⟩ := Except.bind_eq_ok_iff.mp read
  obtain ⟨_, ends, same⟩ := Except.bind_eq_ok_iff.mp read
  cases same
  obtain ⟨b, found, related⟩ := h a rest one
  refine ⟨b, ?_, related⟩
  rw [readDocument, found]
  show (expectEnd rest >>= fun _ => _) = _
  rw [ends]
  rfl

end Follows

/-! ### Elements and fields -/

section Folds

variable {σ τ : Type} {R : σ → τ → Prop} {a : σ} {b : τ}

/-- Readers of related elements read related lists, the second with as many steps at least. -/
theorem follows_foldElements {item : σ → List Char → Except Fault (σ × List Char)}
    {item' : τ → List Char → Except Fault (τ × List Char)}
    (step : ∀ a b s, R a b → Follows R (item a s) (item' b s)) {fuel fuel' : Nat}
    (le : fuel ≤ fuel') (first : Bool) (start : R a b) (s : List Char) :
    Follows R (foldElements item fuel first a s) (foldElements item' fuel' first b s) := by
  -- The steps of the second reader shrink along with those of the first.
  induction fuel generalizing fuel' first a b s with
  | zero => exact follows_error _ _
  | succ fuel ih =>
    obtain ⟨fuel', rfl⟩ : ∃ n, fuel' = n + 1 := ⟨fuel' - 1, by omega⟩
    rw [foldElements, foldElements]
    refine follows_bind _ fun next => ?_
    obtain ⟨more, s⟩ := next
    cases more with
    | false => exact follows_ok start s
    | true =>
      refine (step a b s start).bind fun a b s related => ?_
      exact ih (Nat.le_of_succ_le_succ le) false related s

theorem follows_foldFields {entry : σ → String → List Char → Except Fault (σ × List Char)}
    {entry' : τ → String → List Char → Except Fault (τ × List Char)}
    (step : ∀ a b key s, R a b → Follows R (entry a key s) (entry' b key s)) (fuel : Nat)
    (first : Bool) (start : R a b) (s : List Char) :
    Follows R (foldFields entry fuel first a s) (foldFields entry' fuel first b s) := by
  induction fuel generalizing first a b s with
  | zero => exact follows_error _ _
  | succ fuel ih =>
    rw [foldFields, foldFields]
    refine follows_bind _ fun next => ?_
    obtain ⟨key, s⟩ := next
    cases key with
    | none => exact follows_ok start s
    | some key =>
      refine (step a b key s start).bind fun a b s related => ?_
      exact ih false related s

/-- Elements are put before those that were collected so far. -/
theorem foldElements_collect_append {α : Type} {read : List Char → Except Fault (α × List Char)}
    {fuel fuel' : Nat} (le : fuel ≤ fuel') {first : Bool} {items : List α} {s rest : List Char}
    (h : foldElements (fun items s => (read s).map fun p => (p.1 :: items, p.2)) fuel first [] s
      = .ok (items, rest)) (acc : List α) :
    foldElements (fun items s => (read s).map fun p => (p.1 :: items, p.2)) fuel' first acc s
      = .ok (items ++ acc, rest) := by
  have step (as bs : List α) (s : List Char) (same : bs = as ++ acc) :
      Follows (fun as bs => bs = as ++ acc) ((read s).map fun p => (p.1 :: as, p.2))
        ((read s).map fun p => (p.1 :: bs, p.2)) := by
    intro all rest one
    obtain ⟨⟨a, s'⟩, found, eq⟩ := Except.map_eq_ok_iff.mp one
    cases eq
    refine ⟨a :: bs, ?_, congrArg (a :: ·) same⟩
    rw [found]
    rfl
  obtain ⟨_, more, rfl⟩ := follows_foldElements step le first rfl s items rest h
  exact more

end Folds

/-! ### Lengths -/

theorem exists_of_push {c : Char} {r : Except Fault (List Char × List Char)} {cs rest : List Char}
    (h : push c r = .ok (cs, rest)) : ∃ ds, r = .ok (ds, rest) := by
  obtain ⟨⟨ds, tail⟩, read, same⟩ := Except.map_eq_ok_iff.mp h
  cases same
  exact ⟨ds, read⟩

/-- A text that was read ends in a quote, at least. -/
theorem length_of_readChars {s cs rest : List Char} (h : readChars s = .ok (cs, rest)) :
    rest.length < s.length := by
  fun_induction readChars s generalizing cs with
  | case2 =>
    cases h
    exact Nat.lt_succ_self _
  | case4 | case10 | case15 | case19 =>
    -- A character, or an escape, is put before a text that was read.
    rename_i ih
    obtain ⟨ds, read⟩ := exists_of_push h
    have shorter := ih read
    simp only [List.length_cons]
    omega
  | _ => cases h

theorem length_skipSpace_le (s : List Char) : (skipSpace s).length ≤ s.length :=
  (List.dropWhile_sublist _).length_le

/-- The first element of a list stands after white space. -/
theorem eq_of_nextElement_first {s s' : List Char} (h : nextElement true s = .ok (true, s')) :
    s' = skipSpace s := by
  rw [nextElement] at h
  split at h
  · cases h
  · next found =>
    split at h
    · cases h
    · cases h
      exact found.symm

/-! ### Values -/

/-- A value is read from its first character on. -/
theorem readValue_of_skipSpace (depth : Nat) {s tail : List Char} (h : skipSpace s = tail) :
    readValue depth s = readValue depth tail := by
  have same : skipSpace tail = tail := by
    rw [← h]
    exact List.dropWhile_idempotent ..
  rw [readValue.eq_def, readValue.eq_def]
  dsimp only
  rw [h, same]

/-- A list is read from its first element on. -/
theorem readValue_list_cons {depth : Nat} {s s₁ s₂ rest : List Char}
    (first : nextElement true s = .ok (true, s₁)) {v : Json}
    (one : readValue depth s₁ = .ok (v, s₂)) (enough : s₂.length < s.length) {items : List Json}
    (others : foldElements (fun items s => (readValue depth s).map fun p => (p.1 :: items, p.2))
      (s₂.length + 1) false [] s₂ = .ok (items, rest)) :
    readValue (depth + 1) ('[' :: s) = .ok (list (v :: items.reverse), rest) := by
  -- The whole list is read with more steps than the others were.
  have more := foldElements_collect_append enough others [v]
  rw [readValue_list, foldElements, first]
  show (((readValue depth s₁).map _) >>= _).map _ = _
  rw [one]
  show (foldElements _ _ _ [v] s₂).map _ = _
  rw [more]
  show Except.ok (list (items ++ [v]).reverse, rest) = _
  rw [List.reverse_concat]

/-! ### Maps -/

section Maps

variable {κ α β : Type} [Ord κ] [Std.TransOrd κ] [Std.LawfulEqOrd κ] [DecidableEq κ]
  {Q : α → β → Prop}

/-- Under each key both maps have related values, or neither has one. -/
def RelatedMaps (Q : α → β → Prop) (m : SortedMap κ α) (n : SortedMap κ β) : Prop :=
  ∀ k, Option.Rel Q (m.find? k) (n.find? k)

theorem RelatedMaps.insert {m : SortedMap κ α} {n : SortedMap κ β} (h : RelatedMaps Q m n) {v : α}
    {w : β} (value : Q v w) (k : κ) : RelatedMaps Q (m.insert k v) (n.insert k w) := by
  intro j
  rw [SortedMap.find?_insert, SortedMap.find?_insert]
  split
  · exact .some value
  · exact h j

theorem follows_readMap {key : String → Except Fault κ}
    {item : Nat → List Char → Except Fault (α × List Char)}
    {item' : Nat → List Char → Except Fault (β × List Char)}
    (values : ∀ depth s, Follows Q (item depth s) (item' depth s)) (depth : Nat) (s : List Char) :
    Follows (RelatedMaps Q) (readMap key item depth s) (readMap key item' depth s) := by
  rw [readMap, readMap]
  split
  · exact follows_error _ _
  split
  · split
    · exact follows_error _ _
    · refine follows_foldFields (fun m n name s related => ?_) _ _ (fun k => .none) _
      refine follows_bind _ fun k => ?_
      refine follows_bind _ fun s => ?_
      refine (values _ s).bind fun v w s value => ?_
      exact follows_ok (related.insert value k) s
  · exact follows_error _ _

end Maps

/-! ### Records -/

namespace Layout

variable {σ τ : Type} {R : σ → τ → Prop} {l : Layout σ (FromText σ)} {l' : Layout τ (FromText τ)}

/-- Fields of one name, which read related parts into related records. -/
structure FieldView (R : σ → τ → Prop) (f : Field σ (FromText σ)) (g : Field τ (FromText τ)) :
    Prop where
  name : f.name = g.name
  required : f.required = g.required
  read : ∀ a b depth s, R a b → Follows R (f.read a depth s) (g.read b depth s)

/-- Layouts of the same fields, which build related records up. -/
structure View (R : σ → τ → Prop) (l : Layout σ (FromText σ)) (l' : Layout τ (FromText τ)) :
    Prop where
  start : R l.start l'.start
  fields : List.Forall₂ (FieldView R) l.fields l'.fields

theorem rel_find? {fs : List (Field σ (FromText σ))} {gs : List (Field τ (FromText τ))}
    (h : List.Forall₂ (FieldView R) fs gs) {p : Field σ (FromText σ) → Bool}
    {q : Field τ (FromText τ) → Bool} (same : ∀ f g, FieldView R f g → p f = q g) :
    Option.Rel (FieldView R) (fs.find? p) (gs.find? q) := by
  induction h with
  | nil => exact .none
  | @cons f g fs gs first _ ih =>
    rw [List.find?_cons, List.find?_cons, same f g first]
    cases q g with
    | true => exact .some first
    | false => exact ih

theorem absent_eq_ok_iff {ρ : Type} (l : Layout σ ρ) (index : Nat) (fs : List (Field σ ρ)) :
    l.absent index fs = .ok () ↔ ∀ f ∈ fs, f.required = false := by
  induction fs generalizing index with
  | nil => exact iff_of_true rfl fun f hf => by cases hf
  | cons f fs ih =>
    rw [absent, List.forall_mem_cons, ← ih (index + 1)]
    cases f.required <;> simp

theorem exists_fieldView {fs : List (Field σ (FromText σ))} {gs : List (Field τ (FromText τ))}
    (h : List.Forall₂ (FieldView R) fs gs) : ∀ g ∈ gs, ∃ f ∈ fs, FieldView R f g := by
  induction h with
  | nil => exact fun g hg => by cases hg
  | @cons f _ fs _ first _ ih =>
    intro g hg
    rcases List.mem_cons.mp hg with rfl | hg
    · exact ⟨f, List.mem_cons_self .., first⟩
    · obtain ⟨e, he, view⟩ := ih g hg
      exact ⟨e, List.mem_cons_of_mem f he, view⟩

theorem follows_readPositions (depth index : Nat) {fs : List (Field σ (FromText σ))}
    {gs : List (Field τ (FromText τ))} (h : List.Forall₂ (FieldView R) fs gs) {a : σ} {b : τ}
    (related : R a b) (s : List Char) :
    Follows R (l.readPositions depth index fs a s) (l'.readPositions depth index gs b s) := by
  induction h generalizing index a b s with
  | nil =>
    rw [readPositions, readPositions]
    cases closeList s with
    | error fault => exact follows_error _ _
    | ok s => exact follows_ok related s
  | @cons f g fs gs first others ih =>
    rw [readPositions, readPositions]
    refine follows_bind _ fun next => ?_
    obtain ⟨more, s⟩ := next
    cases more with
    | false =>
      -- What the first may leave out, the second may leave out.
      intro a' rest read
      obtain ⟨_, absent, same⟩ := Except.bind_eq_ok_iff.mp read
      cases same
      have optional : l'.absent index (g :: gs) = .ok () := by
        rw [absent_eq_ok_iff] at absent ⊢
        intro g' hg'
        obtain ⟨f', hf', view⟩ := exists_fieldView (.cons first others) g' hg'
        rw [← view.required]
        exact absent f' hf'
      refine ⟨b, ?_, related⟩
      rw [optional]
      rfl
    | true =>
      refine (first.read a b depth s related).bind fun a b s related => ?_
      exact ih (index + 1) related s

variable (view : View R l l')

include view

theorem View.follows_readField (depth : Nat) (key : String) (s : List Char) {a : σ} {b : τ}
    (related : R a b) (seen : List String) :
    Follows (fun p q : _ × List String => R p.1 q.1 ∧ p.2 = q.2)
      (l.readField depth (a, seen) key s) (l'.readField depth (b, seen) key s) := by
  rw [readField, readField]
  have known : Option.Rel (FieldView R) (l.field? key) (l'.field? key) :=
    rel_find? view.fields fun f g h => by rw [h.name]
  -- Either both layouts know the field, or both pass over it.
  revert known
  generalize l.field? key = x
  generalize l'.field? key = y
  rintro (same | _)
  · dsimp only
    split
    · exact follows_error _ _
    · refine follows_bind _ fun s => ?_
      refine (same.read a b depth s related).bind fun a b s related => ?_
      exact follows_ok ⟨related, rfl⟩ s
  · dsimp only
    refine follows_bind _ fun s => ?_
    refine follows_bind _ fun s => ?_
    exact follows_ok ⟨related, rfl⟩ s

theorem View.complete {seen : List String} {a out : σ} (h : l.complete seen a = .ok out) (b : τ) :
    out = a ∧ l'.complete seen b = .ok b := by
  obtain ⟨same, present⟩ := required_of_complete h
  refine ⟨same, l'.complete_eq (fun g hg required => ?_) b⟩
  obtain ⟨f, hf, field⟩ := exists_fieldView view.fields g hg
  rw [← field.name]
  exact present f hf (field.required ▸ required)

theorem View.follows_read (depth : Nat) (s : List Char) :
    Follows R (l.read depth s) (l'.read depth s) := by
  rw [read.eq_def, read.eq_def]
  split
  · exact follows_error _ _
  split
  · split
    · exact follows_error _ _
    · exact follows_readPositions _ 0 view.fields view.start _
  split
  · split
    · exact follows_error _ _
    · refine (follows_foldFields (R := fun p q : _ × List String => R p.1 q.1 ∧ p.2 = q.2)
        ?_ _ _ ⟨view.start, rfl⟩ _).bind ?_
      · rintro ⟨a, seen⟩ ⟨b, _⟩ key s ⟨related, rfl⟩
        exact view.follows_readField _ key s related seen
      · rintro ⟨a, seen⟩ ⟨b, _⟩ s ⟨related, rfl⟩
        intro out rest read
        obtain ⟨_, complete, same⟩ := Except.bind_eq_ok_iff.mp read
        cases same
        obtain ⟨rfl, complete'⟩ := view.complete complete b
        refine ⟨b, ?_, related⟩
        dsimp only
        rw [complete']
        rfl
  · exact follows_error _ _

end Layout

end Cratewright.Json
