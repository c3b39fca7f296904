/-
The order of identifiers is that of their texts.

Identifiers are compared part by part, and texts character by character. Texts that are each
followed by something else compare as the texts themselves do, if what follows begins below all
of their characters: the text that ends first is then below the other. The number sign is below
the characters of namespaces, and the dollar sign below those of names:

* `Text.append_lt_append_iff` — texts that are followed by something else;
* `ShapeId.compare_eq_lt_iff` — the order of identifiers, part by part;
* `ShapeId.compare_text` — the order of identifiers that are read;
* `ShapeId.pairwise_text` — ascending identifiers.
-/
import Mathlib.Data.String.Basic
import Cratewright.Proofs.ShapeId.Grammar

namespace Cratewright

/-! ### Texts with a tail -/

namespace Text

/-- A text can only begin with a character below those of another. -/
def StartsBelow (x a : List Char) : Prop := ∀ c ∈ x.head?, ∀ d ∈ a, c < d

variable {a b x y : List Char}

theorem startsBelow_cons {c : Char} (h : ∀ d ∈ a, c < d) (x : List Char) :
    StartsBelow (c :: x) a := by
  intro d hd
  cases hd
  exact h

/-- A tail is below every text that begins with a character above it. -/
theorem StartsBelow.lt {c : Char} (h : StartsBelow x (c :: a)) : x < c :: b := by
  cases x with
  | nil => exact List.nil_lt_cons ..
  | cons d x => exact List.cons_lt_cons_iff.mpr (.inl (h d rfl c (List.mem_cons_self ..)))

theorem append_lt_append_iff (hx : StartsBelow x b) (hy : StartsBelow y a) :
    a ++ x < b ++ y ↔ a < b ∨ a = b ∧ x < y := by
  induction a generalizing b with
  | nil =>
    cases b with
    | nil => simp
    | cons d b => simpa using hx.lt
  | cons c a ih =>
    cases b with
    | nil =>
      have above : y < c :: (a ++ x) := hy.lt
      simp [above.le]
    | cons d b =>
      have tails := ih (fun e he f hf => hx e he f (List.mem_cons_of_mem d hf))
        (fun e he f hf => hy e he f (List.mem_cons_of_mem c hf))
      rw [List.cons_append, List.cons_append, List.cons_lt_cons_iff, List.cons_lt_cons_iff, tails,
        List.cons.injEq]
      tauto

end Text

namespace ShapeId

/-! ### Characters -/

theorem IsNameChar.dot_lt {c : Char} (h : IsNameChar c) : '.' < c := by
  rcases h with ⟨h, -⟩ | ⟨h, -⟩ | ⟨h, -⟩ | rfl
  · exact lt_of_lt_of_le (b := 'a') (by decide) h
  · exact lt_of_lt_of_le (b := 'A') (by decide) h
  · exact lt_of_lt_of_le (b := '0') (by decide) h
  · decide

/-- The number sign is below the characters of namespaces. -/
theorem sign_lt_of_mem_spaces {w : List Char} (h : w ∈ spaces) : ∀ c ∈ w, '#' < c := by
  intro c hc
  by_cases dot : c = '.'
  · rw [dot]
    decide
  · obtain ⟨p, hp, hc⟩ := Text.exists_mem_splitAt_of_mem '.' hc dot
    exact lt_trans (b := '.') (by decide) ((mem_spaces_iff.mp h p hp).2 c hc).dot_lt

theorem startsBelow_memberSuffix (member : Option String) {w : List Char} (h : w ∈ names) :
    Text.StartsBelow (memberSuffix member) w := by
  cases member with
  | none =>
    intro c hc
    cases hc
  | some m =>
    refine Text.startsBelow_cons (fun c hc => ?_) _
    exact lt_trans (b := '.') (by decide) (h.2 c hc).dot_lt

theorem startsBelow_sign {w : List Char} (h : w ∈ spaces) (rest : List Char) :
    Text.StartsBelow ('#' :: rest) w :=
  Text.startsBelow_cons (sign_lt_of_mem_spaces h) rest

/-! ### The order -/

variable {a b : ShapeId}

theorem compare_eq_lt_iff :
    compare a b = .lt ↔ a.space < b.space ∨ a.space = b.space ∧
      (a.name < b.name ∨ a.name = b.name ∧ compare a.member b.member = .lt) := by
  show compareLex (compareOn space) (compareLex (compareOn name) (compareOn member)) a b = _ ↔ _
  simp only [compareLex, compareOn, Ordering.then_eq_lt, compare_lt_iff_lt, compare_eq_iff_eq]

theorem memberSuffix_lt_iff {m n : Option String} :
    memberSuffix m < memberSuffix n ↔ compare m n = .lt := by
  cases m with
  | none =>
    cases n with
    | none => simp [memberSuffix]
    | some n => exact iff_of_true (List.nil_lt_cons ..) rfl
  | some m =>
    cases n with
    | none =>
      have above : compare (some m) none = .gt := rfl
      rw [above]
      exact iff_of_false (List.not_lt_nil _) (by decide)
    | some n =>
      show '$' :: m.toList < '$' :: n.toList ↔ compare m n = .lt
      rw [List.cons_lt_cons_iff, compare_lt_iff_lt, String.lt_iff_toList_lt]
      simp

theorem compare_text (ha : a.IsWellFormed) (hb : b.IsWellFormed) :
    compare a b = .lt ↔ a.text < b.text := by
  rw [compare_eq_lt_iff]
  show _ ↔ a.text.toList < b.text.toList
  rw [toList_text, toList_text,
    Text.append_lt_append_iff (startsBelow_sign hb.space _) (startsBelow_sign ha.space _),
    List.cons_lt_cons_iff, Text.append_lt_append_iff (startsBelow_memberSuffix _ hb.name)
      (startsBelow_memberSuffix _ ha.name), memberSuffix_lt_iff]
  simp only [String.lt_iff_toList_lt, String.toList_inj, lt_irrefl, false_or, true_and]

/-- Identifiers that are read ascend with their texts. -/
theorem pairwise_text {ids : List ShapeId} (sorted : ids.Pairwise (compare · · = .lt))
    (formed : ∀ id ∈ ids, id.IsWellFormed) : ids.Pairwise fun a b => a.text < b.text :=
  sorted.imp_of_mem fun ha hb lt => (compare_text (formed _ ha) (formed _ hb)).mp lt

end ShapeId

end Cratewright
