/-
Texts that stand one after the other.

Several texts stand in order in another if each of them can be given a position, so that none
starts before the end of the one that precedes it. The check takes the first occurrence of each
text from where the one before it ended, which loses nothing: an occurrence that is first ends
no later than any other, and what can stand after the other can stand after it too:

* `Text.offset?_eq_some`, `Text.exists_offset?_le` — what is found is an occurrence, and no
  other comes before it;
* `Text.StandFrom.cons_iff`, `Text.StandFrom.mono` — texts that stand in order from a position;
* `Text.inOrderFrom_spec` — the check from a cursor, which never leaves the text;
* `Text.Disorder.IsOf.reports` — what the report of a failed check says;
* `Text.inOrder_complete` — when the check succeeds, and which text it names if it fails.
-/
import Mathlib.Data.List.Chain
import Cratewright.Proofs.Text.Margins
import Cratewright.Text.Search

namespace Cratewright.Text

/-! ### Lengths in bytes -/

theorem byteLength_append (s t : List Char) :
    byteLength (s ++ t) = byteLength s + byteLength t := by
  induction s with
  | nil => exact (Nat.zero_add _).symm
  | cons c s ih => rw [List.cons_append, byteLength_cons, byteLength_cons, ih, Nat.add_assoc]

theorem eq_nil_of_byteLength_eq_zero {s : List Char} (h : byteLength s = 0) : s = [] := by
  cases s with
  | nil => rfl
  | cons c s =>
    have size := c.utf8Size_pos
    rw [byteLength_cons] at h
    omega

theorem utf8ByteSize_eq_byteLength (s : String) : s.utf8ByteSize = byteLength s.toList := by
  have length (l : List Char) : (String.ofList l).utf8ByteSize = byteLength l := by
    induction l with
    | nil => rfl
    | cons c l ih =>
      rw [String.ofList_cons, String.utf8ByteSize_append, String.utf8ByteSize_singleton, ih,
        byteLength_cons]
  rw [← length, String.ofList_toList]

/-! ### Occurrences -/

section Occurrences

variable {needle text : List Char} {n : Nat}

/-- A text occurs in another behind a number of bytes. -/
def OccursBehind (needle text : List Char) (n : Nat) : Prop :=
  ∃ before after, text = before ++ (needle ++ after) ∧ byteLength before = n

theorem offset?_eq_some (h : offset? needle text = some n) : OccursBehind needle text n := by
  induction text generalizing n with
  | nil =>
    rw [offset?] at h
    split at h
    · rename_i empty
      cases h
      exact ⟨[], [], by rw [List.isEmpty_iff.mp empty]; rfl, rfl⟩
    · cases h
  | cons c text ih =>
    rw [offset?] at h
    split at h
    · rename_i here
      cases h
      obtain ⟨after, parts⟩ := List.isPrefixOf_iff_prefix.mp here
      exact ⟨[], after, parts.symm, rfl⟩
    · obtain ⟨m, found, rfl⟩ := Option.map_eq_some_iff.mp h
      obtain ⟨before, after, parts, length⟩ := ih found
      exact ⟨c :: before, after, by rw [parts]; rfl, by rw [byteLength_cons, length]⟩

/-- What occurs is found, and not behind where it occurs. -/
theorem exists_offset?_le (h : OccursBehind needle text n) :
    ∃ m ≤ n, offset? needle text = some m := by
  obtain ⟨before, after, rfl, rfl⟩ := h
  induction before with
  | nil =>
    refine ⟨0, Nat.zero_le _, ?_⟩
    rw [List.nil_append]
    cases parts : needle ++ after with
    | nil =>
      rw [(List.append_eq_nil_iff.mp parts).1]
      rfl
    | cons c rest =>
      have here : needle.isPrefixOf (c :: rest) = true :=
        List.isPrefixOf_iff_prefix.mpr (parts ▸ List.prefix_append needle after)
      rw [offset?, if_pos here]
  | cons c before ih =>
    obtain ⟨m, le, found⟩ := ih
    rw [List.cons_append, offset?, byteLength_cons]
    split
    · exact ⟨0, Nat.zero_le _, rfl⟩
    · exact ⟨c.utf8Size + m, Nat.add_le_add_left le _, by rw [found]; rfl⟩

theorem occurs_iff : occurs needle text = true ↔ ∃ n, OccursBehind needle text n := by
  rw [occurs, Option.isSome_iff_exists]
  constructor
  · rintro ⟨n, found⟩
    exact ⟨n, offset?_eq_some found⟩
  · rintro ⟨n, here⟩
    obtain ⟨m, _, found⟩ := exists_offset?_le here
    exact ⟨m, found⟩

/-- What occurs in the rest of a text occurs in the text. -/
theorem OccursBehind.append_left (h : OccursBehind needle text n) (before : List Char) :
    OccursBehind needle (before ++ text) (byteLength before + n) := by
  obtain ⟨front, after, rfl, rfl⟩ := h
  exact ⟨before ++ front, after, (List.append_assoc ..).symm, byteLength_append ..⟩

/-- What occurs in a text, but not before the rest, occurs in the rest. -/
theorem OccursBehind.of_append {before : List Char} (h : OccursBehind needle (before ++ text) n)
    (le : byteLength before ≤ n) :
    ∃ m, OccursBehind needle text m ∧ n = byteLength before + m := by
  obtain ⟨front, after, parts, rfl⟩ := h
  rcases List.append_eq_append_iff.mp parts with ⟨more, rfl, rest⟩ | ⟨more, rfl, rest⟩
  · exact ⟨byteLength more, ⟨more, after, rest, rfl⟩, byteLength_append ..⟩
  · rw [byteLength_append] at le
    have none : more = [] := eq_nil_of_byteLength_eq_zero (by omega)
    subst none
    exact ⟨0, ⟨[], after, rest.symm, rfl⟩, by rw [List.append_nil]; rfl⟩

end Occurrences

/-! ### Texts in order -/

/-- A text stands in another at a position, which is counted in bytes. -/
def StandsAt (haystack needle : String) (position : Nat) : Prop :=
  ∃ before after, haystack = before ++ needle ++ after ∧ before.utf8ByteSize = position

/-- Texts stand in another in order: each has a position, which is no less than the position
of the one before it plus the length of that. -/
def StandInOrder (haystack : String) (needles : List String) : Prop :=
  ∃ placed : List (String × Nat), placed.map Prod.fst = needles ∧
    (∀ e ∈ placed, StandsAt haystack e.1 e.2) ∧
    placed.IsChain fun a b => a.2 + a.1.utf8ByteSize ≤ b.2

/-- Texts stand in another in order, and the first of them not before a position. -/
def StandFrom (haystack : String) (least : Nat) (needles : List String) : Prop :=
  ∃ placed : List (String × Nat), placed.map Prod.fst = needles ∧
    (∀ e ∈ placed, StandsAt haystack e.1 e.2) ∧
    (placed.IsChain fun a b => a.2 + a.1.utf8ByteSize ≤ b.2) ∧ ∀ e ∈ placed.head?, least ≤ e.2

variable {haystack needle : String} {needles : List String} {least : Nat}

theorem standsAt_iff {position : Nat} : StandsAt haystack needle position ↔
    OccursBehind needle.toList haystack.toList position := by
  constructor
  · rintro ⟨before, after, rfl, rfl⟩
    refine ⟨before.toList, after.toList, ?_, (utf8ByteSize_eq_byteLength before).symm⟩
    rw [String.toList_append, String.toList_append, List.append_assoc]
  · rintro ⟨before, after, parts, rfl⟩
    refine ⟨String.ofList before, String.ofList after, ?_, ?_⟩
    · rw [← String.toList_inj, parts, String.toList_append, String.toList_append,
        String.toList_ofList, String.toList_ofList, List.append_assoc]
    · rw [utf8ByteSize_eq_byteLength, String.toList_ofList]

theorem standInOrder_iff : StandInOrder haystack needles ↔ StandFrom haystack 0 needles := by
  constructor
  · rintro ⟨placed, names, stand, chain⟩
    exact ⟨placed, names, stand, chain, fun e _ => Nat.zero_le e.2⟩
  · rintro ⟨placed, names, stand, chain, _⟩
    exact ⟨placed, names, stand, chain⟩

namespace StandFrom

theorem nil : StandFrom haystack least [] :=
  ⟨[], rfl, nofun, .nil, nofun⟩

theorem cons_iff : StandFrom haystack least (needle :: needles) ↔
    ∃ position, least ≤ position ∧ StandsAt haystack needle position ∧
      StandFrom haystack (position + needle.utf8ByteSize) needles := by
  constructor
  · rintro ⟨placed, names, stand, chain, first⟩
    obtain ⟨e, rest, rfl, rfl, rfl⟩ := List.map_eq_cons_iff.mp names
    obtain ⟨next, chain⟩ := List.isChain_cons.mp chain
    exact ⟨e.2, first e rfl, stand e (List.mem_cons_self ..), rest, rfl,
      fun d hd => stand d (List.mem_cons_of_mem _ hd), chain, next⟩
  · rintro ⟨position, le, here, placed, rfl, stand, chain, first⟩
    refine ⟨(needle, position) :: placed, rfl, List.forall_mem_cons.mpr ⟨here, stand⟩,
      List.isChain_cons.mpr ⟨first, chain⟩, fun e he => ?_⟩
    cases he
    exact le

/-- What can stand behind a position can stand behind any before it. -/
theorem mono {less : Nat} (h : StandFrom haystack least needles) (le : less ≤ least) :
    StandFrom haystack less needles := by
  obtain ⟨placed, names, stand, chain, first⟩ := h
  exact ⟨placed, names, stand, chain, fun e he => le.trans (first e he)⟩

/-- The first occurrence leaves the most room for what follows. -/
theorem cons_iff_of_first {position : Nat} (le : least ≤ position)
    (here : StandsAt haystack needle position)
    (first : ∀ other, least ≤ other → StandsAt haystack needle other → position ≤ other) :
    StandFrom haystack least (needle :: needles) ↔
      StandFrom haystack (position + needle.utf8ByteSize) needles := by
  rw [cons_iff]
  constructor
  · rintro ⟨other, le, there, rest⟩
    exact rest.mono (Nat.add_le_add_right (first other le there) _)
  · intro rest
    exact ⟨position, le, here, rest⟩

theorem of_append {more : List String} (h : StandFrom haystack least (needles ++ more)) :
    StandFrom haystack least needles := by
  obtain ⟨placed, names, stand, chain, first⟩ := h
  obtain ⟨front, back, rfl, rfl, -⟩ := List.map_eq_append_iff.mp names
  refine ⟨front, rfl, fun e he => stand e (List.mem_append_left _ he), chain.left_of_append,
    fun e he => first e ?_⟩
  rw [List.head?_append_of_ne_nil _ (List.ne_nil_of_mem (List.mem_of_mem_head? he))]
  exact he

theorem not_cons (h : ∀ position, least ≤ position → ¬ StandsAt haystack needle position) :
    ¬ StandFrom haystack least (needle :: needles) := by
  rw [cons_iff]
  rintro ⟨position, le, here, _⟩
  exact h position le here

end StandFrom

/-! ### The check -/

/-- The fault of a text that cannot be placed: it says whether the text occurs at all. -/
def Disorder.IsOf (haystack needle : String) (fault : Disorder) : Prop :=
  fault = .early needle ∧ (∃ position, StandsAt haystack needle position) ∨
    fault = .missing needle ∧ ∀ position, ¬ StandsAt haystack needle position

/-- The report names the text in front of all else, and tells whether it occurs at all. -/
def Reports (haystack needle report : String) : Prop :=
  report = "`" ++ needle ++ "` appears before an earlier needle in:\n" ++ haystack ∧
      (∃ position, StandsAt haystack needle position) ∨
    report = "`" ++ needle ++ "` is missing from:\n" ++ haystack ∧
      ∀ position, ¬ StandsAt haystack needle position

/-- The report of a fault names the text that the fault is of. -/
theorem Disorder.IsOf.reports {fault : Disorder} (h : fault.IsOf haystack needle) :
    Reports haystack needle (fault.message haystack) := by
  rcases h with ⟨rfl, here⟩ | ⟨rfl, nowhere⟩
  · exact .inl ⟨rfl, here⟩
  · exact .inr ⟨rfl, nowhere⟩

/-- The fault is that of the first text that cannot stand behind those before it. -/
def FailsFrom (haystack : String) (least : Nat) (needles : List String) (fault : Disorder) :
    Prop :=
  ∃ before needle after, needles = before ++ needle :: after ∧
    StandFrom haystack least before ∧ ¬ StandFrom haystack least (before ++ [needle]) ∧
    fault.IsOf haystack needle

/-- The check succeeds if the texts stand in order from the cursor, and fails if they do not. -/
def Settles (haystack : String) (least : Nat) (needles : List String) :
    Except Disorder Unit → Prop
  | .ok () => StandFrom haystack least needles
  | .error fault => FailsFrom haystack least needles fault

/-- A text that is not found behind the cursor fails. -/
theorem failsFrom_of_none {before rest : List Char} (parts : haystack.toList = before ++ rest)
    (none : offset? needle.toList rest = none) : FailsFrom haystack (byteLength before)
      (needle :: needles)
      (if occurs needle.toList haystack.toList then .early needle else .missing needle) := by
  have nowhere : ∀ position, byteLength before ≤ position →
      ¬ StandsAt haystack needle position := by
    intro position le here
    rw [standsAt_iff, parts] at here
    obtain ⟨n, behind, _⟩ := here.of_append le
    obtain ⟨m, _, found⟩ := exists_offset?_le behind
    rw [none] at found
    cases found
  refine ⟨[], needle, needles, rfl, .nil, StandFrom.not_cons nowhere, ?_⟩
  split
  · rename_i occurs
    obtain ⟨position, here⟩ := occurs_iff.mp occurs
    exact .inl ⟨rfl, position, standsAt_iff.mpr here⟩
  · rename_i absent
    exact .inr ⟨rfl, fun position here =>
      absent (occurs_iff.mpr ⟨position, standsAt_iff.mp here⟩)⟩

/-- A text that is found leaves the others to be found behind it. -/
theorem Settles.cons {position : Nat} {result : Except Disorder Unit} (le : least ≤ position)
    (here : StandsAt haystack needle position)
    (first : ∀ other, least ≤ other → StandsAt haystack needle other → position ≤ other)
    (h : Settles haystack (position + needle.utf8ByteSize) needles result) :
    Settles haystack least (needle :: needles) result := by
  cases result with
  | ok _ => exact (StandFrom.cons_iff_of_first le here first).mpr h
  | error fault =>
    obtain ⟨before, failing, after, parts, stand, fails, of⟩ := h
    refine ⟨needle :: before, failing, after, congrArg (needle :: ·) parts, ?_, ?_, of⟩
    · exact (StandFrom.cons_iff_of_first le here first).mpr stand
    · rw [List.cons_append, StandFrom.cons_iff_of_first le here first]
      exact fails

theorem inOrderFrom_spec {before rest : List Char} (parts : haystack.toList = before ++ rest) :
    Settles haystack (byteLength before) needles
      (inOrderFrom haystack.toList (byteLength before) needles) := by
  induction needles generalizing before rest with
  | nil => exact .nil
  | cons needle needles ih =>
    rw [inOrderFrom, dropBytes?_eq_some_iff.mpr ⟨before, parts, rfl⟩]
    dsimp only
    cases found : offset? needle.toList rest with
    | none =>
      have fails : FailsFrom haystack (byteLength before) (needle :: needles) _ :=
        failsFrom_of_none parts found
      dsimp only
      split at fails
      · rw [if_pos ‹_›]
        exact fails
      · rw [if_neg ‹_›]
        exact fails
    | some offset =>
      -- The cursor moves to the end of the occurrence, where a character starts again.
      obtain ⟨front, after, rest_eq, length⟩ := offset?_eq_some found
      have parts' : haystack.toList = (before ++ (front ++ needle.toList)) ++ after := by
        rw [parts, rest_eq, List.append_assoc, List.append_assoc]
      have cursor : byteLength before + (offset + needle.utf8ByteSize) =
          byteLength (before ++ (front ++ needle.toList)) := by
        rw [byteLength_append, byteLength_append, length, utf8ByteSize_eq_byteLength]
      have here : StandsAt haystack needle (byteLength before + offset) := by
        rw [standsAt_iff, parts]
        exact (offset?_eq_some found).append_left before
      have first : ∀ other, byteLength before ≤ other → StandsAt haystack needle other →
          byteLength before + offset ≤ other := by
        intro other le there
        rw [standsAt_iff, parts] at there
        obtain ⟨n, behind, rfl⟩ := there.of_append le
        obtain ⟨m, le, found'⟩ := exists_offset?_le behind
        cases found.symm.trans found'
        exact Nat.add_le_add_left le _
      have rest' := ih parts'
      rw [← cursor, ← Nat.add_assoc] at rest'
      dsimp only
      rw [← Nat.add_assoc]
      exact rest'.cons (Nat.le_add_right ..) here first

/-- **Texts in order.** The check succeeds exactly if the texts can be given positions in the
haystack, each where it occurs and none before the end of the one that precedes it. If it
fails, its fault is that of the first text that cannot be placed behind those before it, and the
report names this text and says whether it occurs at all; the cursor never leaves the text. -/
theorem inOrder_complete (haystack : String) (needles : List String) :
    (inOrder haystack needles = .ok () ↔ StandInOrder haystack needles) ∧
    (∀ fault, inOrder haystack needles = .error fault →
      ∃ before needle after, needles = before ++ needle :: after ∧
        StandInOrder haystack before ∧ ¬ StandInOrder haystack (before ++ [needle]) ∧
        fault.IsOf haystack needle ∧ Reports haystack needle (fault.message haystack)) ∧
    ∀ cursor, inOrder haystack needles ≠ .error (.outside cursor) := by
  have start : haystack.toList = [] ++ haystack.toList := rfl
  have spec : Settles haystack 0 needles (inOrder haystack needles) := inOrderFrom_spec start
  cases result : inOrder haystack needles with
  | ok _ =>
    rw [result] at spec
    exact ⟨iff_of_true rfl (standInOrder_iff.mpr spec), nofun, nofun⟩
  | error fault =>
    rw [result] at spec
    obtain ⟨before, needle, after, parts, stand, fails, of⟩ := spec
    refine ⟨iff_of_false nofun fun all => ?_, fun other same => ?_, fun cursor same => ?_⟩
    · rw [standInOrder_iff, parts, List.append_cons] at all
      exact fails all.of_append
    · cases same
      exact ⟨before, needle, after, parts, standInOrder_iff.mpr stand,
        fun all => fails (standInOrder_iff.mp all), of, of.reports⟩
    · cases same
      rcases of with ⟨outside, _⟩ | ⟨outside, _⟩ <;> cases outside

/-- Occurrences do not overlap. -/
example : inOrder "abab" ["aba", "ba"] = .error (.early "ba") := by decide

end Cratewright.Text
