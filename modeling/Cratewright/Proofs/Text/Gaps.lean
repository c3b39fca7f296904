/-
Texts with gaps.

A text that was put together from parts, one of which is left open, is a text with gaps: whatever
is put in, the rest stays as it is. Cutting such a text into lines, trimming a line and setting it
in give texts with gaps again, provided that what is put in stands on one line and neither starts
nor ends in a blank:

* `Text.Uniform.pieces`, `Text.exists_trimEnd_fill` — lines of texts with gaps;
* `Text.Uniform.isBlankText` — whether a text with gaps is blank;
* `Text.replaceAll_fill` — a marker that is put in can be replaced afterwards.
-/
import Cratewright.Proofs.Text.Margins

namespace Cratewright.Text

/-- A text that stands on one line, is not blank, and has no blanks at its ends. -/
structure IsInline (v : List Char) : Prop where
  feed : '\n' ∉ v
  text : isBlankText v = false
  trimmed : trim v = v

namespace IsInline

variable {v : List Char} (h : IsInline v)

include h

theorem ne_nil : v ≠ [] := by
  rintro rfl
  exact absurd h.text (by decide)

theorem trimEnd_eq : trimEnd v = v := by
  have twice : trimEnd (trim v) = trim v := by
    refine dropEndWhile_of_getLast? fun c hc => ?_
    exact not_of_getLast?_dropEndWhile isBlank hc
  rw [h.trimmed] at twice
  exact twice

/-- The first character is no blank, or trimming would drop it. -/
theorem isBlank_head {c : Char} (hc : v.head? = some c) : isBlank c = false := by
  cases blank : isBlank c with
  | false => rfl
  | true =>
    obtain ⟨rest, rfl⟩ : ∃ rest, v = c :: rest := by
      cases v with
      | nil => cases hc
      | cons d rest =>
        cases hc
        exact ⟨rest, rfl⟩
    have shorter : trim rest = c :: rest := by
      have blanks : ∀ d ∈ [c], isBlank d = true := by simpa using blank
      have dropped := trim_blanks_append blanks rest
      exact dropped.symm.trans h.trimmed
    have sub : (trim rest).length ≤ rest.length := by
      obtain ⟨dropped, parts, -⟩ := dropEndWhile_spec isBlank (trimStart rest)
      have total := congrArg List.length parts
      have start : (trimStart rest).length ≤ rest.length := (List.dropWhile_sublist _).length_le
      rw [List.length_append] at total
      show (trimEnd (trimStart rest)).length ≤ _
      rw [trimEnd]
      omega
    rw [shorter, List.length_cons] at sub
    omega

end IsInline

/-! ### Gaps -/

/-- A text with gaps: characters, and places where a text is to be put in. -/
abbrev Gapped := List (Option Char)

namespace Gapped

/-- The text with the gaps filled. -/
def fill (v : List Char) (g : Gapped) : List Char :=
  g.flatMap fun
    | some c => [c]
    | none => v

variable (v : List Char)

@[simp] theorem fill_nil : fill v [] = [] := rfl

@[simp] theorem fill_char (c : Char) (g : Gapped) : fill v (some c :: g) = c :: fill v g := rfl

@[simp] theorem fill_gap (g : Gapped) : fill v (none :: g) = v ++ fill v g := rfl

@[simp] theorem fill_append (g k : Gapped) : fill v (g ++ k) = fill v g ++ fill v k :=
  List.flatMap_append

@[simp] theorem fill_map_some (s : List Char) : fill v (s.map some) = s := by
  induction s with
  | nil => rfl
  | cons c s ih => rw [List.map_cons, fill_char, ih]

/-- All characters of the text around the gaps have a property. -/
def Within (A : Char → Prop) (g : Gapped) : Prop := ∀ c, some c ∈ g → A c

theorem within_map_some {A : Char → Prop} {s : List Char} (h : ∀ c ∈ s, A c) :
    Within A (s.map some) := by
  intro c hc
  obtain ⟨d, hd, same⟩ := List.mem_map.mp hc
  obtain rfl : d = c := Option.some.inj same
  exact h d hd

theorem Within.append {A : Char → Prop} {g k : Gapped} (hg : Within A g) (hk : Within A k) :
    Within A (g ++ k) := by
  intro c hc
  rcases List.mem_append.mp hc with hc | hc
  · exact hg c hc
  · exact hk c hc

theorem Within.cons {A : Char → Prop} {o : Option Char} {g : Gapped} (ho : ∀ c, o = some c → A c)
    (hg : Within A g) : Within A (o :: g) := by
  intro c hc
  rcases List.mem_cons.mp hc with same | hc
  · exact ho c same.symm
  · exact hg c hc

theorem fill_eq_nil_iff {v : List Char} (ne : v ≠ []) {g : Gapped} : fill v g = [] ↔ g = [] := by
  cases g with
  | nil => simp
  | cons o g => cases o <;> simp [ne]

end Gapped

open Gapped

/-! ### Texts that depend on what is put in -/

section Uniform

variable (A : Char → Prop)

/-- A text that depends on another is one text with gaps that the other is put into. The characters
around the gaps have the property `A`. -/
def Uniform (f : List Char → List Char) : Prop :=
  ∃ g : Gapped, g.Within A ∧ ∀ v, IsInline v → f v = fill v g

/-- The lines of a text that depends on another, likewise. -/
def UniformLines (f : List Char → List (List Char)) : Prop :=
  ∃ gs : List Gapped, (∀ g ∈ gs, g.Within A) ∧ ∀ v, IsInline v → f v = gs.map (fill v)

variable {A} {f k : List Char → List Char}

theorem Uniform.congr (hf : Uniform A f) (same : ∀ v, IsInline v → f v = k v) : Uniform A k := by
  obtain ⟨g, hg, fills⟩ := hf
  exact ⟨g, hg, fun v hv => (same v hv).symm.trans (fills v hv)⟩

theorem uniform_const {s : List Char} (h : ∀ c ∈ s, A c) : Uniform A fun _ => s :=
  ⟨s.map some, within_map_some h, fun v _ => (fill_map_some v s).symm⟩

theorem uniform_self : Uniform A fun v => v := by
  refine ⟨[none], ?_, fun v _ => ?_⟩
  · intro c hc
    simp at hc
  · simp

theorem Uniform.append (hf : Uniform A f) (hk : Uniform A k) : Uniform A fun v => f v ++ k v := by
  obtain ⟨g, hg, fillsf⟩ := hf
  obtain ⟨j, hj, fillsk⟩ := hk
  refine ⟨g ++ j, hg.append hj, fun v hv => ?_⟩
  show f v ++ k v = _
  rw [fill_append, fillsf v hv, fillsk v hv]

theorem Uniform.flatMap {α : Type} {h : List Char → α → List Char} {l : List α}
    (each : ∀ a ∈ l, Uniform A fun v => h v a) : Uniform A fun v => l.flatMap (h v) := by
  induction l with
  | nil => exact uniform_const (by simp)
  | cons a l ih =>
    have rest := ih fun b hb => each b (List.mem_cons_of_mem _ hb)
    exact (each a (List.mem_cons_self ..)).append rest

/-- Whether a text with gaps is blank does not depend on what is put in. -/
theorem Uniform.isBlankText (hf : Uniform A f) :
    ∃ blank, ∀ v, IsInline v → isBlankText (f v) = blank := by
  obtain ⟨g, -, fills⟩ := hf
  refine ⟨g.all fun o => o.any isBlank, fun v hv => ?_⟩
  rw [fills v hv, Text.isBlankText, fill, List.all_flatMap]
  congr 1
  funext o
  cases o with
  | some c => simp
  | none => exact hv.text

theorem trimEnd_append_of_isInline {v : List Char} (h : IsInline v) (s : List Char) :
    trimEnd (v ++ s) = v ++ trimEnd s := by
  cases blank : Text.isBlankText s with
  | false => exact trimEnd_append_of_text blank v
  | true =>
    have nothing : trimEnd s = [] := by
      have none := trimEnd_append_blanks (List.all_eq_true.mp blank) []
      exact none
    rw [trimEnd_append_blanks (List.all_eq_true.mp blank), h.trimEnd_eq, nothing, List.append_nil]

/-- Trimming stops at the last gap at the latest. -/
theorem exists_trimEnd_fill (g : Gapped) (hg : g.Within A) :
    ∃ k : Gapped, k.Within A ∧ ∀ v, IsInline v → Text.trimEnd (fill v g) = fill v k := by
  induction g with
  | nil => exact ⟨[], hg, fun v _ => rfl⟩
  | cons o g ih =>
    obtain ⟨k, hk, fills⟩ := ih fun c hc => hg c (List.mem_cons_of_mem _ hc)
    have first : ∀ c, o = some c → A c := by
      rintro c rfl
      exact hg c (List.mem_cons_self ..)
    cases o with
    | none =>
      refine ⟨none :: k, hk.cons first, fun v hv => ?_⟩
      rw [fill_gap, fill_gap, trimEnd_append_of_isInline hv, fills v hv]
    | some c =>
      -- The character is dropped only if nothing is left of what follows, which no text changes.
      by_cases empty : k = []
      · refine ⟨if isBlank c then [] else [some c], ?_, fun v hv => ?_⟩
        · split
          · exact fun d hd => by cases hd
          · exact Within.cons first fun d hd => by cases hd
        · have rest : dropEndWhile isBlank (fill v g) = [] := by
            rw [← trimEnd, fills v hv, empty]
            rfl
          rw [fill_char, trimEnd, dropEndWhile, rest]
          dsimp only
          split <;> rfl
      · refine ⟨some c :: k, hk.cons first, fun v hv => ?_⟩
        obtain ⟨d, kept, some⟩ := List.exists_cons_of_ne_nil (mt (fill_eq_nil_iff hv.ne_nil).mp empty)
        have rest : dropEndWhile isBlank (fill v g) = d :: kept := by
          rw [← trimEnd, fills v hv, some]
        rw [fill_char, fill_char, trimEnd, dropEndWhile, rest, some]

theorem pieces_append_of_feedless {v s p : List Char} {ps : List (List Char)} (feed : '\n' ∉ v)
    (h : pieces s = p :: ps) : pieces (v ++ s) = (v ++ p) :: ps := by
  induction v with
  | nil => exact h
  | cons c v ih =>
    rw [List.mem_cons, not_or] at feed
    rw [List.cons_append, pieces, if_neg (Ne.symm feed.1), ih feed.2]
    rfl

/-- A gap is in the middle of a line, since no feed is put in. -/
theorem exists_pieces_fill (g : Gapped) (hg : g.Within A) :
    ∃ (p : Gapped) (ps : List Gapped), (∀ k ∈ p :: ps, k.Within A) ∧
      ∀ v, IsInline v → pieces (fill v g) = fill v p :: ps.map (fill v) := by
  induction g with
  | nil =>
    refine ⟨[], [], ?_, fun v _ => rfl⟩
    rintro k hk c hc
    cases List.mem_singleton.mp hk
    cases hc
  | cons o g ih =>
    obtain ⟨p, ps, hps, cut⟩ := ih fun c hc => hg c (List.mem_cons_of_mem _ hc)
    have ⟨hp, hrest⟩ := List.forall_mem_cons.mp hps
    have first : ∀ c, o = some c → A c := by
      rintro c rfl
      exact hg c (List.mem_cons_self ..)
    by_cases feed : o = some '\n'
    · subst feed
      refine ⟨[], p :: ps, List.forall_mem_cons.mpr ⟨nofun, hps⟩, fun v hv => ?_⟩
      rw [fill_char, pieces, if_pos rfl, cut v hv]
      rfl
    · refine ⟨o :: p, ps, List.forall_mem_cons.mpr ⟨hp.cons first, hrest⟩, fun v hv => ?_⟩
      cases o with
      | none => exact pieces_append_of_feedless hv.feed (cut v hv)
      | some c =>
        have ne : c ≠ '\n' := fun same => feed (congrArg some same)
        rw [fill_char, pieces, if_neg ne, cut v hv]
        rfl

theorem Uniform.pieces (hf : Uniform A f) : UniformLines A fun v => Text.pieces (f v) := by
  obtain ⟨g, hg, fills⟩ := hf
  obtain ⟨p, ps, within, cut⟩ := exists_pieces_fill g hg
  refine ⟨p :: ps, within, fun v hv => ?_⟩
  show Text.pieces (f v) = _
  rw [fills v hv, cut v hv]
  rfl

theorem uniformLines_const {ls : List (List Char)} (h : ∀ l ∈ ls, ∀ c ∈ l, A c) :
    UniformLines A fun _ => ls := by
  refine ⟨ls.map fun l => l.map some, fun g hg => ?_, fun v _ => ?_⟩
  · obtain ⟨l, hl, rfl⟩ := List.mem_map.mp hg
    exact within_map_some (h l hl)
  · rw [List.map_map]
    exact ((List.map_congr_left fun l _ => fill_map_some v l).trans (List.map_id ls)).symm

theorem UniformLines.append {f k : List Char → List (List Char)} (hf : UniformLines A f)
    (hk : UniformLines A k) : UniformLines A fun v => f v ++ k v := by
  obtain ⟨gs, hgs, fillsf⟩ := hf
  obtain ⟨js, hjs, fillsk⟩ := hk
  refine ⟨gs ++ js, fun g hg => ?_, fun v hv => ?_⟩
  · rcases List.mem_append.mp hg with hg | hg
    · exact hgs g hg
    · exact hjs g hg
  · show f v ++ k v = _
    rw [List.map_append, fillsf v hv, fillsk v hv]

/-- Lines with gaps that are changed one by one, each as a text with gaps. -/
theorem UniformLines.map {f : List Char → List (List Char)} {h : List Char → List Char}
    (hf : UniformLines A f)
    (each : ∀ g : Gapped, g.Within A → Uniform A fun v => h (fill v g)) :
    UniformLines A fun v => (f v).map h := by
  obtain ⟨gs, hgs, fills⟩ := hf
  have lines : UniformLines A fun v => (gs.map (fill v)).map h := by
    clear fills
    induction gs with
    | nil => exact uniformLines_const (by simp)
    | cons g gs ih =>
      obtain ⟨k, hk, fillsk⟩ := each g (hgs g (List.mem_cons_self ..))
      obtain ⟨js, hjs, fillsjs⟩ := ih fun j hj => hgs j (List.mem_cons_of_mem _ hj)
      refine ⟨k :: js, List.forall_mem_cons.mpr ⟨hk, hjs⟩, fun v hv => ?_⟩
      show h (fill v g) :: (gs.map (fill v)).map h = fill v k :: js.map (fill v)
      rw [← fillsk v hv, ← fillsjs v hv]
  obtain ⟨js, hjs, fillsjs⟩ := lines
  refine ⟨js, hjs, fun v hv => ?_⟩
  show (f v).map h = _
  rw [fills v hv, ← fillsjs v hv]

/-- Lines with gaps make up a text with gaps. -/
theorem UniformLines.unlines {f : List Char → List (List Char)} (hf : UniformLines A f)
    (feed : A '\n') : Uniform A fun v => unlines (f v) := by
  obtain ⟨gs, hgs, fills⟩ := hf
  have text : Uniform A fun v => gs.flatMap fun g => fill v g ++ ['\n'] := by
    refine Uniform.flatMap fun g hg => ?_
    have line : Uniform A fun v => fill v g := ⟨g, hgs g hg, fun _ _ => rfl⟩
    exact line.append (uniform_const (by simpa using feed))
  obtain ⟨k, hk, fillsk⟩ := text
  refine ⟨k, hk, fun v hv => ?_⟩
  show Text.unlines (f v) = _
  rw [← fillsk v hv, fills v hv, Text.unlines, List.flatMap_map]

end Uniform

/-! ### Markers -/

/-- The text after the next `skip` characters with each occurrence of `old` replaced by `new`. -/
def replaceFrom (old new : List Char) : Nat → List Char → List Char
  | _, [] => []
  | skip + 1, _ :: rest => replaceFrom old new skip rest
  | 0, c :: rest =>
    if old.isPrefixOf (c :: rest) then new ++ replaceFrom old new (old.length - 1) rest
    else c :: replaceFrom old new 0 rest

/-- Replaces every occurrence of a text by another, from left to right. -/
def replaceAll (old new text : List Char) : List Char := replaceFrom old new 0 text

theorem replaceFrom_length_append (old new s rest : List Char) :
    replaceFrom old new s.length (s ++ rest) = replaceFrom old new 0 rest := by
  induction s with
  | nil => rfl
  | cons c s ih => exact ih

/-- A marker that is put into gaps can be replaced by another text afterwards, if the character that
it starts with does not stand around the gaps. -/
theorem replaceAll_fill {m : Char} {marker : List Char} (v : List Char) (g : Gapped)
    (fresh : g.Within (· ≠ m)) :
    replaceAll (m :: marker) v (fill (m :: marker) g) = fill v g := by
  induction g with
  | nil => rfl
  | cons o g ih =>
    have rest := ih fun c hc => fresh c (List.mem_cons_of_mem _ hc)
    cases o with
    | none =>
      have here : (m :: marker).isPrefixOf (m :: (marker ++ fill (m :: marker) g)) = true := by
        simp [List.isPrefixOf_iff_prefix]
      rw [fill_gap, fill_gap, List.cons_append, replaceAll, replaceFrom, if_pos here,
        List.length_cons, Nat.add_sub_cancel, replaceFrom_length_append, ← rest]
      rfl
    | some c =>
      have other : ¬ (m :: marker).isPrefixOf (c :: fill (m :: marker) g) = true := by
        have ne : c ≠ m := fresh c (List.mem_cons_self ..)
        simp [List.isPrefixOf_iff_prefix, Ne.symm ne]
      rw [fill_char, fill_char, replaceAll, replaceFrom, if_neg other, ← rest]
      rfl

end Cratewright.Text
