/-
What is left of a text without its margin.

The margin is a number of bytes, while the blanks at the start of a line may take one byte each or
several. A cut after so many bytes spares a line if it falls between two of its blanks; otherwise it
falls inside one of them, and the line is lost:

* `Text.dropBytes?_eq_some_iff` — what follows a number of bytes;
* `Text.trim_dropBytes_of_spares`, `Text.dropBytes_of_not_spares` — what a cut leaves of a line;
* `Text.isBody_trimLines` — the lines from the first to the last with text on it;
* `Text.map_trim_eq_iff` — when the lines are the same but for their blanks.
-/
import Mathlib.Data.List.Forall2
import Mathlib.Data.List.TakeWhile
import Cratewright.Proofs.Text.Lines

namespace Cratewright.Text

/-! ### Blanks at the ends of texts -/

theorem trimEnd_append_blanks {blanks : List Char} (h : ∀ c ∈ blanks, isBlank c = true)
    (s : List Char) : trimEnd (s ++ blanks) = trimEnd s := by
  have nothing : ∀ {bs : List Char}, (∀ c ∈ bs, isBlank c = true) → trimEnd bs = [] := by
    intro bs hbs
    induction bs with
    | nil => rfl
    | cons c bs ih =>
      have rest : dropEndWhile isBlank bs = [] := ih fun d hd => hbs d (List.mem_cons_of_mem _ hd)
      rw [trimEnd, dropEndWhile, rest]
      exact if_pos (hbs c (List.mem_cons_self ..))
  induction s with
  | nil => exact nothing h
  | cons c s ih =>
    rw [trimEnd] at ih
    rw [List.cons_append, trimEnd, dropEndWhile, ih]
    rfl

/-- Nothing is dropped before a text that is not blank. -/
theorem trimEnd_append_of_text {l : List Char} (h : isBlankText l = false) (s : List Char) :
    trimEnd (s ++ l) = s ++ trimEnd l := by
  have some : trimEnd l ≠ [] := by
    intro none
    obtain ⟨dropped, parts, blanks⟩ := dropEndWhile_spec isBlank l
    rw [trimEnd] at none
    rw [none, List.nil_append] at parts
    rw [parts, isBlankText, List.all_eq_true.mpr blanks] at h
    cases h
  induction s with
  | nil => rfl
  | cons c s ih =>
    obtain ⟨d, kept, hk⟩ := List.exists_cons_of_ne_nil (List.append_ne_nil_of_right_ne_nil s some)
    have rest : dropEndWhile isBlank (s ++ l) = d :: kept := ih.trans hk
    rw [List.cons_append, trimEnd, dropEndWhile, rest, List.cons_append, hk]

theorem trim_blanks_append {blanks : List Char} (h : ∀ c ∈ blanks, isBlank c = true)
    (s : List Char) : trim (blanks ++ s) = trim s := by
  rw [trim, trimStart, List.dropWhile_append_of_pos h]
  rfl

theorem trim_append_blanks {blanks : List Char} (h : ∀ c ∈ blanks, isBlank c = true)
    (s : List Char) : trim (s ++ blanks) = trim s := by
  rw [trim, trim, trimStart, trimStart, List.dropWhile_append]
  split
  · rename_i empty
    rw [List.isEmpty_iff.mp empty, List.dropWhile_eq_nil_iff.mpr h]
  · exact trimEnd_append_blanks h _

theorem trim_trimEnd (s : List Char) : trim (trimEnd s) = trim s := by
  obtain ⟨dropped, parts, blanks⟩ := dropEndWhile_spec isBlank s
  have whole : trim s = trim (trimEnd s ++ dropped) := congrArg trim parts
  rw [whole, trim_append_blanks blanks]

/-- The blanks at the start of a line, and the rest. -/
theorem leadingBlanks_append_trimStart (l : List Char) : leadingBlanks l ++ trimStart l = l :=
  List.takeWhile_append_dropWhile

theorem isBlank_of_mem_leadingBlanks {c : Char} {l : List Char} (h : c ∈ leadingBlanks l) :
    isBlank c = true :=
  List.mem_takeWhile_imp h

theorem trim_eq_nil_iff {s : List Char} : trim s = [] ↔ isBlankText s = true := by
  constructor
  · intro h
    obtain ⟨dropped, parts, blanks⟩ := dropEndWhile_spec isBlank (trimStart s)
    have none : dropEndWhile isBlank (trimStart s) = [] := h
    rw [none, List.nil_append] at parts
    -- What is left at the start is blank, so nothing was left.
    have leading : ∀ c ∈ leadingBlanks s, isBlank c = true := fun c => isBlank_of_mem_leadingBlanks
    rw [← leadingBlanks_append_trimStart s, isBlankText_append, isBlankText, isBlankText,
      List.all_eq_true.mpr leading, parts, List.all_eq_true.mpr blanks]
    rfl
  · intro h
    have same := trim_blanks_append (List.all_eq_true.mp h) []
    rw [List.append_nil] at same
    exact same

/-! ### Cuts after a number of bytes -/

theorem byteLength_cons (c : Char) (s : List Char) :
    byteLength (c :: s) = c.utf8Size + byteLength s :=
  rfl

theorem dropBytes?_eq_some_iff {n : Nat} {s rest : List Char} :
    dropBytes? n s = some rest ↔ ∃ before, s = before ++ rest ∧ byteLength before = n := by
  constructor
  · intro h
    induction s generalizing n with
    | nil =>
      cases n with
      | zero => exact ⟨[], Option.some.inj h, rfl⟩
      | succ n => cases h
    | cons c s ih =>
      cases n with
      | zero => exact ⟨[], Option.some.inj h, rfl⟩
      | succ n =>
        rw [dropBytes?] at h
        split at h
        · rename_i fits
          obtain ⟨before, rfl, length⟩ := ih h
          refine ⟨c :: before, rfl, ?_⟩
          rw [byteLength_cons]
          omega
        · cases h
  · rintro ⟨before, rfl, length⟩
    induction before generalizing n with
    | nil =>
      subst length
      exact dropBytes?.eq_1 rest
    | cons c before ih =>
      rw [byteLength_cons] at length
      have pos := c.utf8Size_pos
      obtain ⟨k, rfl⟩ : ∃ k, n = k + 1 := ⟨n - 1, by omega⟩
      rw [List.cons_append, dropBytes?, if_pos (by omega)]
      exact ih (by omega)

/-- A cut inside the first part of a text leaves the second alone. -/
theorem dropBytes?_append {n : Nat} {s : List Char} (h : n ≤ byteLength s) (rest : List Char) :
    dropBytes? n (s ++ rest) = (dropBytes? n s).map (· ++ rest) := by
  induction s generalizing n with
  | nil =>
    obtain rfl : n = 0 := Nat.le_zero.mp h
    cases rest <;> rfl
  | cons c s ih =>
    cases n with
    | zero => rfl
    | succ n =>
      rw [byteLength_cons] at h
      rw [List.cons_append, dropBytes?, dropBytes?]
      split
      · exact ih (by omega)
      · rfl

/-- A cut after `n` bytes falls between two of the blanks at the start of a line, or at an end of
them. -/
def Spares (n : Nat) (l : List Char) : Prop :=
  ∃ before after, leadingBlanks l = before ++ after ∧ byteLength before = n

theorem dropBytes_of_spares {n : Nat} {l : List Char} (h : Spares n l) :
    ∃ after, (∀ c ∈ after, isBlank c = true) ∧ dropBytes n l = after ++ trimStart l := by
  obtain ⟨before, after, parts, length⟩ := h
  refine ⟨after, fun c hc => isBlank_of_mem_leadingBlanks (l := l) ?_, ?_⟩
  · rw [parts]
    exact List.mem_append_right _ hc
  · have cut : dropBytes? n l = some (after ++ trimStart l) := by
      refine dropBytes?_eq_some_iff.mpr ⟨before, ?_, length⟩
      rw [← List.append_assoc, ← parts, leadingBlanks_append_trimStart]
    rw [dropBytes, cut]
    rfl

/-- A line that is spared loses blanks only. -/
theorem trim_dropBytes_of_spares {n : Nat} {l : List Char} (h : Spares n l) :
    trim (dropBytes n l) = trim l := by
  obtain ⟨after, blanks, left⟩ := dropBytes_of_spares h
  have leading : ∀ c ∈ leadingBlanks l, isBlank c = true := fun c => isBlank_of_mem_leadingBlanks
  calc trim (dropBytes n l) = trim (after ++ trimStart l) := by rw [left]
    _ = trim (trimStart l) := trim_blanks_append blanks _
    _ = trim (leadingBlanks l ++ trimStart l) := (trim_blanks_append leading _).symm
    _ = trim l := by rw [leadingBlanks_append_trimStart]

/-- A line that is not spared is lost, for the cut falls inside a blank. -/
theorem dropBytes_of_not_spares {n : Nat} {l : List Char} (within : n ≤ byteLength (leadingBlanks l))
    (h : ¬ Spares n l) : dropBytes n l = [] := by
  -- The cut is among the blanks, so it would spare the line if it ended between two of them.
  have inside : dropBytes? n (leadingBlanks l) = none := by
    cases cut : dropBytes? n (leadingBlanks l) with
    | none => rfl
    | some after =>
      obtain ⟨before, parts, length⟩ := dropBytes?_eq_some_iff.mp cut
      exact absurd ⟨before, after, parts, length⟩ h
  have whole := dropBytes?_append within (trimStart l)
  rw [leadingBlanks_append_trimStart, inside] at whole
  rw [dropBytes, whole]
  rfl

theorem isBlankText_dropBytes (n : Nat) {l : List Char} (h : isBlankText l = true) :
    isBlankText (dropBytes n l) = true := by
  refine List.all_eq_true.mpr fun c hc => ?_
  exact List.all_eq_true.mp h c (mem_of_mem_dropBytes hc)

/-! ### The body of a text -/

/-- The lines of a text from the first to the last with text on it. -/
structure IsBody (s : List Char) (body : List (List Char)) : Prop where
  parts : ∃ before after, lines s = before ++ body ++ after ∧
    ∀ l ∈ before ++ after, isBlankText l = true
  first : ∀ l, body.head? = some l → isBlankText l = false
  last : ∀ l, body.getLast? = some l → isBlankText l = false

theorem isBody_trimLines (s : List Char) : IsBody s (trimLines (lines s)) := by
  let kept := (lines s).dropWhile isBlankText
  have started : (lines s).takeWhile isBlankText ++ kept = lines s :=
    List.takeWhile_append_dropWhile
  have ended : kept.reverse.takeWhile isBlankText ++ kept.reverse.dropWhile isBlankText
      = kept.reverse := List.takeWhile_append_dropWhile
  have parts : kept = trimLines (lines s) ++ (kept.reverse.takeWhile isBlankText).reverse := by
    have reversed := congrArg List.reverse ended
    rw [List.reverse_append, List.reverse_reverse] at reversed
    exact reversed.symm
  refine ⟨⟨(lines s).takeWhile isBlankText, (kept.reverse.takeWhile isBlankText).reverse, ?_, ?_⟩,
    fun l hl => ?_, fun l hl => ?_⟩
  · rw [List.append_assoc, ← parts]
    exact started.symm
  · intro l hl
    rcases List.mem_append.mp hl with hl | hl
    · exact List.mem_takeWhile_imp hl
    · exact List.mem_takeWhile_imp (List.mem_reverse.mp hl)
  · -- The first line that is left is the first that was kept at the start.
    have head : kept.head? = some l := by
      rw [parts, List.head?_append, hl]
      rfl
    have stops := List.head?_dropWhile_not isBlankText (lines s)
    rw [show (lines s).dropWhile isBlankText = kept from rfl, head] at stops
    simpa using stops
  · have head : (kept.reverse.dropWhile isBlankText).head? = some l := by
      rw [← List.getLast?_reverse]
      exact hl
    have stops := List.head?_dropWhile_not isBlankText kept.reverse
    rw [head] at stops
    simpa using stops

/-! ### The margin -/

theorem margin_le {ls : List (List Char)} {l : List Char} (hl : l ∈ ls)
    (h : isBlankText l = false) : margin ls ≤ byteLength (leadingBlanks l) := by
  refine List.min?_getD_le_of_mem (List.mem_map_of_mem (List.mem_filter.mpr ⟨hl, ?_⟩))
  rw [h]
  rfl

/-- The margin of some lines spares each of them that has text on it. -/
def IsEven (body : List (List Char)) : Prop :=
  ∀ l ∈ body, isBlankText l = false → Spares (margin body) l

/-- What a line is after a cut: up to the blanks at its ends it is as it was, if it was spared, and
empty if it was not. -/
def Survives (n : Nat) (l k : List Char) : Prop :=
  Spares n l ∧ trim k = trim l ∨ ¬ Spares n l ∧ trim k = []

theorem survives_dropBytes {ls : List (List Char)} {l : List Char} (hl : l ∈ ls) :
    Survives (margin ls) l (dropBytes (margin ls) l) := by
  by_cases spared : Spares (margin ls) l
  · exact .inl ⟨spared, trim_dropBytes_of_spares spared⟩
  · refine .inr ⟨spared, ?_⟩
    cases blank : isBlankText l with
    | true => exact trim_eq_nil_iff.mpr (isBlankText_dropBytes _ blank)
    | false =>
      rw [dropBytes_of_not_spares (margin_le hl blank) spared]
      rfl

/-- Lines that survive are the same up to blanks if and only if those with text were spared. -/
theorem map_trim_eq_iff {n : Nat} {body ls : List (List Char)}
    (h : List.Forall₂ (Survives n) body ls) :
    ls.map trim = body.map trim ↔ ∀ l ∈ body, isBlankText l = false → Spares n l := by
  induction h with
  | nil => simp
  | @cons l k body ls survives _ ih =>
    rw [List.map_cons, List.map_cons, List.cons.injEq, ih, List.forall_mem_cons]
    refine and_congr_left' ?_
    rcases survives with ⟨spared, same⟩ | ⟨lost, nothing⟩
    · exact iff_of_true same fun _ => spared
    · rw [nothing, eq_comm, trim_eq_nil_iff]
      cases isBlankText l <;> simp [lost]

end Cratewright.Text
