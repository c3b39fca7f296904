/-
The grammar of identifiers.

A namespace is a name, or several names with dots between them. An identifier is a namespace, a
number sign and a name, and that of a member goes on with a dollar sign and a name. The reader
cuts a text at the first of each sign; as no sign stands in a name, this finds the parts of
every text of the grammar, and what is wrong with any other text shows in one of the parts:

* `Text.cutAt?_eq_some_iff`, `Text.cutAt?_eq_none_iff` — cuts at the first of a character;
* `ShapeId.mem_spaces_iff` — namespaces by their pieces;
* `ShapeId.parse_eq_ok_iff` — what is read from which text;
* `ShapeId.parse_grammar` — the texts that are read, their parts, and their one reading.
-/
import Mathlib.Computability.Language
import Cratewright.Outcome
import Cratewright.Proofs.Text.Lines
import Cratewright.ShapeId

namespace Cratewright

open scoped Computability

/-! ### Cuts -/

namespace Text

variable {sep : Char} {a b : List Char}

theorem cutAt?_append_cons (h : sep ∉ a) (b : List Char) :
    cutAt? sep (a ++ sep :: b) = some (a, b) := by
  induction a with
  | nil => exact if_pos rfl
  | cons c a ih =>
    rw [List.mem_cons, not_or] at h
    rw [List.cons_append, cutAt?, if_neg (Ne.symm h.1), ih h.2]
    rfl

theorem cutAt?_eq_none_iff {s : List Char} : cutAt? sep s = none ↔ sep ∉ s := by
  induction s with
  | nil => simp [cutAt?]
  | cons c s ih =>
    rw [cutAt?, List.mem_cons, not_or]
    by_cases same : c = sep
    · simp [same]
    · rw [if_neg same, Option.map_eq_none_iff, ih]
      exact (and_iff_right (Ne.symm same)).symm

theorem cutAt?_eq_some_iff {s : List Char} :
    cutAt? sep s = some (a, b) ↔ s = a ++ sep :: b ∧ sep ∉ a := by
  constructor
  · intro h
    induction s generalizing a with
    | nil => cases h
    | cons c s ih =>
      rw [cutAt?] at h
      split at h
      · next same =>
        cases h
        exact ⟨congrArg (· :: b) same, List.not_mem_nil⟩
      · next other =>
        obtain ⟨⟨front, back⟩, cut, same⟩ := Option.map_eq_some_iff.mp h
        cases same
        obtain ⟨rfl, fresh⟩ := ih cut
        refine ⟨rfl, fun mem => ?_⟩
        rcases List.mem_cons.mp mem with same | mem
        · exact other same.symm
        · exact fresh mem
  · rintro ⟨rfl, fresh⟩
    exact cutAt?_append_cons fresh b

end Text

namespace ShapeId

/-! ### Names and namespaces -/

/-- A letter, a digit or the underscore of ASCII. -/
def IsNameChar (c : Char) : Prop :=
  ('a' ≤ c ∧ c ≤ 'z') ∨ ('A' ≤ c ∧ c ≤ 'Z') ∨ ('0' ≤ c ∧ c ≤ '9') ∨ c = '_'

/-- The names: one such character or more. -/
def names : Language Char := {w | w ≠ [] ∧ ∀ c ∈ w, IsNameChar c}

/-- The namespaces: names with dots between them. -/
def spaces : Language Char := names * ({['.']} * names)∗

/-- The written forms of shapes, and of their members. -/
def written : Language Char :=
  spaces * {['#']} * names + spaces * {['#']} * names * {['$']} * names

theorem isNameChar_iff {c : Char} : isNameChar c = true ↔ IsNameChar c := by
  have ranges : c.isAlphanum = ((decide ('A' ≤ c ∧ c ≤ 'Z') ||
      (decide ('a' ≤ c) && decide (c ≤ 'z'))) || (decide ('0' ≤ c) && decide (c ≤ '9'))) :=
    rfl
  rw [isNameChar, ranges, IsNameChar]
  simp only [Bool.or_eq_true, Bool.and_eq_true, decide_eq_true_eq, beq_iff_eq]
  tauto

theorem isName_iff {w : List Char} : isName w = true ↔ w ∈ names := by
  rw [isName, Bool.and_eq_true, Bool.not_eq_true', List.isEmpty_eq_false_iff, List.all_eq_true]
  simp only [isNameChar_iff]
  rfl

/-- A character that is not of names is in none. -/
theorem not_mem_of_mem_names {c : Char} {w : List Char} (h : isNameChar c = false)
    (hw : w ∈ names) : c ∉ w := by
  intro hc
  have char := isNameChar_iff.mpr (hw.2 c hc)
  rw [h] at char
  cases char

/-- The pieces of a namespace are its names. -/
theorem mem_spaces_iff {w : List Char} :
    w ∈ spaces ↔ ∀ p ∈ Text.splitAt '.' w, p ∈ names := by
  constructor
  · intro h
    obtain ⟨p, hp, tail, ht, rfl⟩ := Language.mem_mul.mp h
    obtain ⟨rest, rfl, dotted⟩ := Language.mem_kstar.mp ht
    clear h ht
    -- The induction is on the names that follow the first, each with its dot.
    induction rest generalizing p with
    | nil =>
      rw [List.flatten_nil, List.append_nil,
        Text.splitAt_of_not_mem (not_mem_of_mem_names (by decide) hp), List.forall_mem_singleton]
      exact hp
    | cons d rest ih =>
      obtain ⟨first, others⟩ := List.forall_mem_cons.mp dotted
      obtain ⟨_, rfl, q, hq, rfl⟩ := Language.mem_mul.mp first
      have later := ih q hq others
      show ∀ r ∈ Text.splitAt '.' (p ++ '.' :: (q ++ rest.flatten)), r ∈ names
      rw [Text.splitAt_append_cons,
        Text.splitAt_of_not_mem (not_mem_of_mem_names (by decide) hp), List.singleton_append]
      exact List.forall_mem_cons.mpr ⟨hp, later⟩
  · intro h
    obtain ⟨p, ps, hp⟩ := List.exists_cons_of_ne_nil (Text.splitAt_ne_nil '.' w)
    rw [hp, List.forall_mem_cons] at h
    have parts : p ++ ps.flatMap ('.' :: ·) = w := by
      rw [← Text.intercalate_cons, ← hp, Text.intercalate_splitAt]
    rw [← parts]
    refine Language.append_mem_mul h.1 (Language.mem_kstar.mpr ⟨ps.map ('.' :: ·), rfl, ?_⟩)
    intro d hd
    obtain ⟨q, hq, rfl⟩ := List.mem_map.mp hd
    exact Language.mem_mul.mpr ⟨['.'], rfl, q, h.2 q hq, rfl⟩

/-! ### Reading -/

/-- The parts of the identifier are those of the grammar. -/
structure IsWellFormed (id : ShapeId) : Prop where
  space : id.space.toList ∈ spaces
  name : id.name.toList ∈ names
  member : ∀ m, id.member = some m → m.toList ∈ names

/-- What follows the name of a shape. -/
def memberSuffix : Option String → List Char
  | none => []
  | some m => '$' :: m.toList

theorem toList_text (id : ShapeId) :
    id.text.toList = id.space.toList ++ '#' :: (id.name.toList ++ memberSuffix id.member) := by
  obtain ⟨space, name, member⟩ := id
  cases member <;> simp [text, memberSuffix]

theorem parseName_eq_ok_iff {rest : List Char} {name : String} {member : Option String} :
    parseName rest = .ok (name, member) ↔ name.toList ∈ names ∧
      (∀ m, member = some m → m.toList ∈ names) ∧ rest = name.toList ++ memberSuffix member := by
  constructor
  · intro h
    rw [parseName] at h
    cases cut : Text.cutAt? '$' rest with
    | none =>
      rw [cut] at h
      dsimp only at h
      split at h
      · cases h
      · next named =>
        cases h
        rw [Bool.not_eq_true, Bool.not_eq_false'] at named
        rw [String.toList_ofList]
        exact ⟨isName_iff.mp named, by simp, (List.append_nil _).symm⟩
    | some parts =>
      obtain ⟨front, back⟩ := parts
      rw [cut] at h
      dsimp only at h
      split at h
      · cases h
      next named =>
      split at h
      · next memberNamed =>
        cases h
        rw [Bool.not_eq_true, Bool.not_eq_false'] at named
        refine ⟨?_, ?_, ?_⟩
        · rw [String.toList_ofList]
          exact isName_iff.mp named
        · intro m hm
          cases hm
          rw [String.toList_ofList]
          exact isName_iff.mp memberNamed
        · rw [memberSuffix, String.toList_ofList, String.toList_ofList]
          exact (Text.cutAt?_eq_some_iff.mp cut).1
      · cases h
  · rintro ⟨hname, hmember, rfl⟩
    have named := isName_iff.mpr hname
    have plain : '$' ∉ name.toList := not_mem_of_mem_names (by decide) hname
    cases member with
    | none =>
      rw [memberSuffix, List.append_nil, parseName, Text.cutAt?_eq_none_iff.mpr plain]
      dsimp only
      rw [named, String.ofList_toList]
      rfl
    | some m =>
      have memberNamed := isName_iff.mpr (hmember m rfl)
      rw [memberSuffix, parseName, Text.cutAt?_append_cons plain]
      dsimp only
      rw [named, memberNamed, String.ofList_toList, String.ofList_toList]
      rfl

/-- A text is read if it is the written form of an identifier with well-formed parts, and it is
read as this identifier. -/
theorem parse_eq_ok_iff {s : String} {id : ShapeId} :
    parse s = .ok id ↔ id.IsWellFormed ∧ id.text = s := by
  rw [parse, Except.mapError_eq_ok_iff, ← String.toList_inj, toList_text, parseParts]
  constructor
  · intro h
    cases cut : Text.cutAt? '#' s.toList with
    | none =>
      rw [cut] at h
      cases h
    | some parts =>
      obtain ⟨space, rest⟩ := parts
      rw [cut] at h
      dsimp only at h
      split at h
      · next spaced =>
        obtain ⟨⟨name, member⟩, read, rfl⟩ := Except.map_eq_ok_iff.mp h
        obtain ⟨hname, hmember, rfl⟩ := parseName_eq_ok_iff.mp read
        simp only [List.all_eq_true, isName_iff, ← mem_spaces_iff] at spaced
        refine ⟨⟨?_, hname, hmember⟩, ?_⟩
        · rw [String.toList_ofList]
          exact spaced
        · rw [String.toList_ofList]
          exact (Text.cutAt?_eq_some_iff.mp cut).1.symm
      · cases h
  · rintro ⟨⟨hspace, hname, hmember⟩, parts⟩
    have pieces := mem_spaces_iff.mp hspace
    -- A number sign in the namespace would be in one of its names.
    have plain : '#' ∉ id.space.toList := by
      intro mem
      obtain ⟨p, hp, hc⟩ := Text.exists_mem_splitAt_of_mem '.' mem (by decide)
      exact not_mem_of_mem_names (by decide) (pieces p hp) hc
    have spaced : (Text.splitAt '.' id.space.toList).all isName = true :=
      List.all_eq_true.mpr fun p hp => isName_iff.mpr (pieces p hp)
    rw [← parts, Text.cutAt?_append_cons plain]
    dsimp only
    rw [if_pos spaced, parseName_eq_ok_iff.mpr ⟨hname, hmember, rfl⟩, Except.map,
      String.ofList_toList]

/-- The written forms are the texts of identifiers with well-formed parts. -/
theorem exists_text_iff {s : String} :
    (∃ id, IsWellFormed id ∧ id.text = s) ↔ s.toList ∈ written := by
  constructor
  · rintro ⟨⟨space, name, member⟩, ⟨hspace, hname, hmember⟩, rfl⟩
    have shape : space.toList ++ ['#'] ++ name.toList ∈ spaces * {['#']} * names :=
      Language.append_mem_mul (Language.append_mem_mul hspace rfl) hname
    rw [toList_text, written, Language.mem_add]
    cases member with
    | none =>
      refine .inl ?_
      simpa [memberSuffix] using shape
    | some m =>
      refine .inr ?_
      have inner := Language.append_mem_mul (Language.append_mem_mul shape (m := {['$']}) rfl)
        (hmember m rfl)
      simpa [memberSuffix] using inner
  · rintro (h | h)
    · obtain ⟨_, ⟨space, hspace, _, rfl, rfl⟩, name, hname, parts⟩ := h
      refine ⟨⟨String.ofList space, String.ofList name, none⟩, ⟨?_, ?_, by simp⟩, ?_⟩
      · rwa [String.toList_ofList]
      · rwa [String.toList_ofList]
      · rw [← String.toList_inj, toList_text, ← parts]
        simp [memberSuffix]
    · obtain ⟨_, ⟨_, ⟨_, ⟨space, hspace, _, rfl, rfl⟩, name, hname, rfl⟩, _, rfl, rfl⟩, m, hm,
        parts⟩ := h
      refine ⟨⟨String.ofList space, String.ofList name, some (String.ofList m)⟩, ⟨?_, ?_, ?_⟩, ?_⟩
      · rwa [String.toList_ofList]
      · rwa [String.toList_ofList]
      · rintro _ ⟨⟩
        rwa [String.toList_ofList]
      · rw [← String.toList_inj, toList_text, ← parts]
        simp [memberSuffix]

/-- The texts that are read are those of the grammar. What is read is spelled as the text, from
the parts of the grammar that stand in it, and every identifier with such parts is read from its
spelling. -/
theorem parse_grammar :
    (∀ s, (∃ id, parse s = .ok id) ↔ s.toList ∈ written) ∧
    (∀ s id, parse s = .ok id → id.text = s ∧ id.IsWellFormed ∧
      s.toList = id.space.toList ++ '#' :: (id.name.toList ++ memberSuffix id.member)) ∧
    ∀ id, IsWellFormed id → parse id.text = .ok id := by
  refine ⟨fun s => ?_, fun s id h => ?_, fun id h => parse_eq_ok_iff.mpr ⟨h, rfl⟩⟩
  · rw [← exists_text_iff]
    simp only [parse_eq_ok_iff]
  · obtain ⟨formed, rfl⟩ := parse_eq_ok_iff.mp h
    exact ⟨rfl, formed, toList_text id⟩

theorem parse_grammar_token :
    parse "example.weather#GetForecast$city" =
        .ok ⟨"example.weather", "GetForecast", some "city"⟩ ∧
      IsWellFormed ⟨"example.weather", "GetForecast", some "city"⟩ ∧
      "example.weather#GetForecast$city".toList ∈ written := by
  have read : parse "example.weather#GetForecast$city" =
      .ok ⟨"example.weather", "GetForecast", some "city"⟩ := by
    decide +kernel
  obtain ⟨accepted, parts, spelled⟩ := parse_grammar
  obtain ⟨same, formed, -⟩ := parts _ _ read
  refine ⟨?_, formed, (accepted _).mp ⟨_, read⟩⟩
  rw [← same]
  exact spelled _ formed

end ShapeId

end Cratewright
