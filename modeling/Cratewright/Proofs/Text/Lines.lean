/-
Cutting texts into lines.

Cutting a text loses nothing but line feeds, the carriage returns before them, and the blanks
that trimming drops. What is left of a text without its blank lines and without the blanks at
the ends of its lines are its bare lines; these do not change if blanks are put at the end of
the text or where a line starts:

* `Text.dropEndWhile_spec` — a text is what is kept of it and what is dropped;
* `Text.intercalate_pieces`, `Text.pieces_flatMap_feed` — the pieces of a text make it up;
* `Text.solid_pieces` — the lines of a text without the feeds at its end;
* `Text.LineByLine` — readings of texts for which only the lines matter;
* `Text.dropReturn_spec` — a line is what is left of it, and possibly a carriage return;
* `Text.mem_of_mem_dedent` — the characters of a line are characters of the text;
* `Text.bareLines_append_feed` — the bare lines of one text behind another;
* `Text.bareLines_blanks_append`, `Text.bareLines_append_blanks` — blanks do not count.
-/
import Mathlib.Data.List.Basic
import Cratewright.Text.Lines
import Cratewright.Text.Search

namespace Cratewright.Text

/-! ### Ends of texts -/

/-- What is dropped at the end of a text has the property, and nothing else is lost. -/
theorem dropEndWhile_spec (p : Char → Bool) (s : List Char) :
    ∃ dropped, s = dropEndWhile p s ++ dropped ∧ ∀ c ∈ dropped, p c = true := by
  induction s with
  | nil => exact ⟨[], rfl, fun c hc => by cases hc⟩
  | cons c s ih =>
    obtain ⟨dropped, hs, hd⟩ := ih
    rw [dropEndWhile]
    cases kept : dropEndWhile p s with
    | nil =>
      rw [kept, List.nil_append] at hs
      by_cases hc : p c = true
      · refine ⟨c :: s, (if_pos hc).symm ▸ rfl, fun d h => ?_⟩
        rcases List.mem_cons.mp h with rfl | h
        · exact hc
        · exact hd d (hs ▸ h)
      · exact ⟨s, (if_neg hc).symm ▸ rfl, fun d h => hd d (hs ▸ h)⟩
    | cons k ks =>
      rw [kept] at hs
      exact ⟨dropped, congrArg (c :: ·) hs, hd⟩

theorem mem_of_mem_trim {c : Char} {s : List Char} (h : c ∈ trim s) : c ∈ s := by
  obtain ⟨dropped, parts, -⟩ := dropEndWhile_spec isBlank (trimStart s)
  have inner : c ∈ trimStart s := parts ▸ List.mem_append_left dropped h
  exact (List.dropWhile_sublist _).subset inner

/-- What is kept of a text does not end in what is dropped. -/
theorem not_of_getLast?_dropEndWhile (p : Char → Bool) {s : List Char} {c : Char}
    (h : (dropEndWhile p s).getLast? = some c) : p c = false := by
  induction s with
  | nil => cases h
  | cons d s ih =>
    rw [dropEndWhile] at h
    cases kept : dropEndWhile p s with
    | nil =>
      rw [kept] at h
      by_cases hd : p d = true
      · simp [hd] at h
      · simp only [hd] at h
        cases h
        exact Bool.eq_false_iff.mpr hd
    | cons k ks =>
      rw [kept] at h ih
      exact ih h

theorem dropEndWhile_of_getLast? {p : Char → Bool} {s : List Char}
    (h : ∀ c, s.getLast? = some c → p c = false) : dropEndWhile p s = s := by
  obtain ⟨dropped, hs, hd⟩ := dropEndWhile_spec p s
  rcases List.eq_nil_or_concat dropped with rfl | ⟨init, c, rfl⟩
  · rw [List.append_nil] at hs
    exact hs.symm
  · -- Something was dropped, so the last character has the property.
    have last : s.getLast? = some c := by
      rw [hs, List.concat_eq_append, ← List.append_assoc]
      exact List.getLast?_concat
    have some := hd c (by simp)
    rw [h c last] at some
    cases some

theorem dropReturn_spec : ∀ p : List Char, p = dropReturn p ∨ p = dropReturn p ++ ['\r']
  | [] => .inl rfl
  | [c] => by
    by_cases h : c = '\r'
    · exact .inr (by rw [dropReturn, if_pos h, h]; rfl)
    · exact .inl (by rw [dropReturn, if_neg h])
  | c :: d :: rest => by
    rcases dropReturn_spec (d :: rest) with h | h
    · exact .inl (congrArg (c :: ·) h)
    · exact .inr (congrArg (c :: ·) h)

theorem dropReturn_append_of_ne_nil (s : List Char) {t : List Char} (h : t ≠ []) :
    dropReturn (s ++ t) = s ++ dropReturn t := by
  induction s with
  | nil => rfl
  | cons c s ih =>
    obtain ⟨d, rest, some⟩ := List.exists_cons_of_ne_nil (List.append_ne_nil_of_right_ne_nil s h)
    rw [some] at ih
    rw [List.cons_append, some, dropReturn, ih]
    · rfl
    · simp

/-! ### Pieces -/

theorem intercalate_cons (sep : Char) (p : List Char) (ps : List (List Char)) :
    [sep].intercalate (p :: ps) = p ++ ps.flatMap (sep :: ·) := by
  induction ps generalizing p with
  | nil =>
    rw [List.intercalate_singleton]
    exact (List.append_nil p).symm
  | cons q ps ih =>
    rw [List.intercalate_cons_cons, ih q, List.append_assoc]
    rfl

section SplitAt

variable (sep : Char)

theorem splitAt_ne_nil (s : List Char) : splitAt sep s ≠ [] := by
  cases s with
  | nil => exact List.cons_ne_nil _ _
  | cons c s =>
    rw [splitAt]
    split
    · exact List.cons_ne_nil _ _
    · split <;> exact List.cons_ne_nil _ _

theorem splitAt_append_cons (s rest : List Char) :
    splitAt sep (s ++ sep :: rest) = splitAt sep s ++ splitAt sep rest := by
  induction s with
  | nil =>
    show splitAt sep (sep :: rest) = [] :: splitAt sep rest
    rw [splitAt, if_pos rfl]
  | cons c s ih =>
    rw [List.cons_append, splitAt, splitAt, ih]
    obtain ⟨p, ps, hp⟩ := List.exists_cons_of_ne_nil (splitAt_ne_nil sep s)
    rw [hp]
    split <;> rfl

/-- The pieces between the occurrences of a character make up the text. -/
theorem intercalate_splitAt (s : List Char) : [sep].intercalate (splitAt sep s) = s := by
  induction s with
  | nil => rfl
  | cons c s ih =>
    obtain ⟨p, ps, hp⟩ := List.exists_cons_of_ne_nil (splitAt_ne_nil sep s)
    rw [hp] at ih
    rw [splitAt, hp]
    split
    · rename_i same
      rw [List.intercalate_cons_cons, ih, same]
      rfl
    · cases ps with
      | nil => exact congrArg (c :: ·) ih
      | cons q qs =>
        rw [List.intercalate_cons_cons] at ih
        dsimp only
        rw [List.intercalate_cons_cons]
        exact congrArg (c :: ·) ih

variable {sep} in
theorem splitAt_of_not_mem {s : List Char} (h : sep ∉ s) : splitAt sep s = [s] := by
  induction s with
  | nil => rfl
  | cons c s ih =>
    rw [List.mem_cons, not_or] at h
    rw [splitAt, ih h.2, if_neg (Ne.symm h.1)]

/-- A character other than the separator stands in one of the pieces. -/
theorem exists_mem_splitAt_of_mem {c : Char} {s : List Char} (h : c ∈ s) (other : c ≠ sep) :
    ∃ p ∈ splitAt sep s, c ∈ p := by
  induction s with
  | nil => cases h
  | cons d s ih =>
    obtain ⟨p, ps, hp⟩ := List.exists_cons_of_ne_nil (splitAt_ne_nil sep s)
    rw [hp] at ih
    rw [splitAt, hp]
    rcases List.mem_cons.mp h with rfl | h
    · rw [if_neg other]
      exact ⟨c :: p, List.mem_cons_self .., List.mem_cons_self ..⟩
    · obtain ⟨q, hq, hc⟩ := ih h
      split
      · exact ⟨q, List.mem_cons_of_mem _ hq, hc⟩
      · rcases List.mem_cons.mp hq with rfl | hq
        · exact ⟨d :: q, List.mem_cons_self .., List.mem_cons_of_mem d hc⟩
        · exact ⟨q, List.mem_cons_of_mem _ hq, hc⟩

variable {sep} in
theorem mem_of_mem_splitAt {c : Char} {p s : List Char} (hp : p ∈ splitAt sep s) (hc : c ∈ p) :
    c ∈ s := by
  rw [← intercalate_splitAt sep s]
  generalize splitAt sep s = ps at hp
  induction ps with
  | nil => cases hp
  | cons q ps ih =>
    rw [intercalate_cons, List.mem_append]
    rcases List.mem_cons.mp hp with rfl | hp
    · exact .inl hc
    · exact .inr (List.mem_flatMap.mpr ⟨p, hp, List.mem_cons_of_mem sep hc⟩)

variable {sep} in
theorem not_mem_of_mem_splitAt {p s : List Char} (h : p ∈ splitAt sep s) : sep ∉ p := by
  induction s generalizing p with
  | nil =>
    rw [List.mem_singleton.mp h]
    exact List.not_mem_nil
  | cons c s ih =>
    obtain ⟨q, qs, hq⟩ := List.exists_cons_of_ne_nil (splitAt_ne_nil sep s)
    rw [hq] at ih
    rw [splitAt, hq] at h
    split at h
    · rcases List.mem_cons.mp h with rfl | h
      · exact List.not_mem_nil
      · exact ih h
    · rename_i ne
      rcases List.mem_cons.mp h with rfl | h
      · rw [List.mem_cons, not_or]
        exact ⟨Ne.symm ne, ih (List.mem_cons_self ..)⟩
      · exact ih (List.mem_cons_of_mem _ h)

end SplitAt

theorem pieces_eq_splitAt (s : List Char) : pieces s = splitAt '\n' s := by
  induction s with
  | nil => rfl
  | cons c s ih =>
    rw [pieces, ih]
    rfl

theorem pieces_ne_nil (s : List Char) : pieces s ≠ [] := by
  rw [pieces_eq_splitAt]
  exact splitAt_ne_nil '\n' s

theorem pieces_append_feed (s rest : List Char) :
    pieces (s ++ '\n' :: rest) = pieces s ++ pieces rest := by
  rw [pieces_eq_splitAt, pieces_eq_splitAt, pieces_eq_splitAt, splitAt_append_cons]

/-- Before a line feed stands a piece of its own, and any other character is part of one. -/
theorem pieces_cons (c : Char) (s : List Char) :
    ∃ p ps, pieces s = p :: ps ∧ pieces (c :: s) = if c = '\n' then [] :: p :: ps
      else (c :: p) :: ps := by
  obtain ⟨p, ps, hp⟩ := List.exists_cons_of_ne_nil (pieces_ne_nil s)
  exact ⟨p, ps, hp, by rw [pieces, hp]⟩

/-- The pieces of a text make it up. -/
theorem intercalate_pieces (s : List Char) : ['\n'].intercalate (pieces s) = s := by
  rw [pieces_eq_splitAt, intercalate_splitAt]

theorem pieces_unlines (ls : List (List Char)) :
    pieces (unlines ls) = ls.flatMap pieces ++ [[]] := by
  induction ls with
  | nil => rfl
  | cons l ls ih =>
    have first : unlines (l :: ls) = l ++ '\n' :: unlines ls := (List.append_cons ..).symm
    rw [first, pieces_append_feed, ih, List.flatMap_cons, List.append_assoc]

theorem mem_of_mem_pieces {c : Char} {p s : List Char} (hp : p ∈ pieces s) (hc : c ∈ p) :
    c ∈ s := by
  rw [pieces_eq_splitAt] at hp
  exact mem_of_mem_splitAt hp hc

theorem feed_not_mem_of_mem_pieces {p s : List Char} (h : p ∈ pieces s) : '\n' ∉ p := by
  rw [pieces_eq_splitAt] at h
  exact not_mem_of_mem_splitAt h

/-- Texts without feeds, one on each line, are the pieces of the whole. -/
theorem pieces_flatMap_feed {p : List Char} {ps : List (List Char)}
    (h : ∀ q ∈ p :: ps, '\n' ∉ q) : pieces (p ++ ps.flatMap ('\n' :: ·)) = p :: ps := by
  induction ps generalizing p with
  | nil =>
    rw [List.flatMap_nil, List.append_nil, pieces_eq_splitAt,
      splitAt_of_not_mem (h p (List.mem_cons_self ..))]
  | cons q ps ih =>
    rw [List.flatMap_cons, List.cons_append, pieces_append_feed,
      ih fun r hr => h r (List.mem_cons_of_mem _ hr), pieces_eq_splitAt,
      splitAt_of_not_mem (h p (List.mem_cons_self ..))]
    rfl

theorem flatMap_pieces_of_feedless {ls : List (List Char)} (h : ∀ l ∈ ls, '\n' ∉ l) :
    ls.flatMap pieces = ls := by
  induction ls with
  | nil => rfl
  | cons l ls ih =>
    rw [List.flatMap_cons, ih fun k hk => h k (List.mem_cons_of_mem _ hk), pieces_eq_splitAt,
      splitAt_of_not_mem (h l (List.mem_cons_self ..))]
    rfl

/-- Lines with an empty piece behind them make up a text in which each line ends in a feed. -/
theorem intercalate_concat_nil (ls : List (List Char)) :
    ['\n'].intercalate (ls ++ [[]]) = unlines ls := by
  induction ls with
  | nil => rfl
  | cons l ls ih =>
    obtain ⟨k, ks, hk⟩ := List.exists_cons_of_ne_nil (List.append_ne_nil_of_right_ne_nil ls
      (List.cons_ne_nil ([] : List Char) []))
    rw [hk] at ih
    rw [List.cons_append, hk, List.intercalate_cons_cons, ih]
    rfl

/-! ### Lines of a file -/

theorem mem_of_mem_dropReturn {c : Char} {p : List Char} (h : c ∈ dropReturn p) : c ∈ p := by
  rcases dropReturn_spec p with e | e
  · rw [e]
    exact h
  · rw [e]
    exact List.mem_append_left _ h

theorem exists_mem_of_mem_linesOfPieces {c : Char} {l : List Char} (hc : c ∈ l) :
    ∀ {ps : List (List Char)}, l ∈ linesOfPieces ps → ∃ p ∈ ps, c ∈ p
  | [], hl => by cases hl
  | [p], hl => by
    rw [linesOfPieces] at hl
    split at hl
    · cases hl
    · cases List.mem_singleton.mp hl
      exact ⟨l, List.mem_singleton_self l, hc⟩
  | p :: q :: ps, hl => by
    rcases List.mem_cons.mp hl with rfl | hl
    · exact ⟨p, List.mem_cons_self .., mem_of_mem_dropReturn hc⟩
    · obtain ⟨r, hr, hc⟩ := exists_mem_of_mem_linesOfPieces hc hl
      exact ⟨r, List.mem_cons_of_mem p hr, hc⟩

theorem feed_not_mem_of_mem_lines {l s : List Char} (h : l ∈ lines s) : '\n' ∉ l := by
  intro feed
  obtain ⟨p, hp, feed⟩ := exists_mem_of_mem_linesOfPieces feed h
  exact feed_not_mem_of_mem_pieces hp feed

theorem mem_of_mem_dropBytes {c : Char} {n : Nat} {s : List Char} (h : c ∈ dropBytes n s) :
    c ∈ s := by
  have left : ∀ {n : Nat} {s rest : List Char}, dropBytes? n s = some rest → rest ⊆ s := by
    intro n s
    induction s generalizing n with
    | nil =>
      intro rest hr
      cases n with
      | zero => exact (Option.some.inj hr) ▸ List.Subset.refl _
      | succ n => cases hr
    | cons d s ih =>
      intro rest hr
      cases n with
      | zero => exact (Option.some.inj hr) ▸ List.Subset.refl _
      | succ n =>
        rw [dropBytes?] at hr
        split at hr
        · exact List.Subset.trans (ih hr) (List.subset_cons_self ..)
        · cases hr
  rw [dropBytes] at h
  cases hr : dropBytes? n s with
  | none =>
    rw [hr] at h
    cases h
  | some rest =>
    rw [hr] at h
    exact left hr h

theorem mem_of_mem_trimLines {l : List Char} {ls : List (List Char)} (h : l ∈ trimLines ls) :
    l ∈ ls := by
  have later := (List.dropWhile_sublist _).subset (List.mem_reverse.mp h)
  exact (List.dropWhile_sublist _).subset (List.mem_reverse.mp later)

/-- What stands on a line stands in the text. -/
theorem mem_of_mem_dedent {c : Char} {l s : List Char} (hl : l ∈ dedent s) (hc : c ∈ l) :
    c ∈ s := by
  obtain ⟨k, hk, rfl⟩ := List.mem_map.mp hl
  obtain ⟨p, hp, hc⟩ :=
    exists_mem_of_mem_linesOfPieces (mem_of_mem_dropBytes hc) (mem_of_mem_trimLines hk)
  exact mem_of_mem_pieces hp hc

theorem feed_not_mem_of_mem_dedent {l s : List Char} (h : l ∈ dedent s) : '\n' ∉ l := by
  obtain ⟨k, hk, rfl⟩ := List.mem_map.mp h
  exact fun feed => feed_not_mem_of_mem_lines (mem_of_mem_trimLines hk) (mem_of_mem_dropBytes feed)

/-! ### Feeds at the end -/

/-- The lines up to the last that is not empty. -/
def solid : List (List Char) → List (List Char)
  | [] => []
  | l :: ls =>
    match solid ls with
    | [] => if l.isEmpty then [] else [l]
    | kept => l :: kept

theorem solid_cons_of_ne_nil (l : List Char) {ls : List (List Char)} (h : solid ls ≠ []) :
    solid (l :: ls) = l :: solid ls := by
  rw [solid]
  cases kept : solid ls with
  | nil => exact absurd kept h
  | cons k ks => rfl

theorem solid_cons_of_nil (l : List Char) {ls : List (List Char)} (h : solid ls = []) :
    solid (l :: ls) = if l.isEmpty then [] else [l] := by
  rw [solid, h]

theorem solid_sublist_cons (l : List Char) (ls : List (List Char)) :
    (solid ls).Sublist (solid (l :: ls)) := by
  by_cases h : solid ls = []
  · rw [h]
    exact List.nil_sublist _
  · rw [solid_cons_of_ne_nil l h]
    exact List.sublist_cons_self ..

/-- Lines that are left out leave out nothing else. -/
theorem sublist_solid {ls ks : List (List Char)} (h : ls.Sublist ks) :
    (solid ls).Sublist (solid ks) := by
  induction h with
  | slnil => exact List.Sublist.refl _
  | cons k _ ih => exact ih.trans (solid_sublist_cons k _)
  | @cons_cons ls ks l _ ih =>
    by_cases none : solid ls = []
    · rw [solid_cons_of_nil l none]
      split
      · exact List.nil_sublist _
      · rename_i full
        by_cases last : solid ks = []
        · rw [solid_cons_of_nil l last, if_neg full]
        · rw [solid_cons_of_ne_nil l last]
          exact (List.nil_sublist _).cons_cons l
    · have some : solid ks ≠ [] := fun h => none (List.sublist_nil.mp (h ▸ ih))
      rw [solid_cons_of_ne_nil l none, solid_cons_of_ne_nil l some]
      exact ih.cons_cons l

theorem solid_concat_nil (ls : List (List Char)) : solid (ls ++ [[]]) = solid ls := by
  induction ls with
  | nil => rfl
  | cons l ls ih => rw [List.cons_append, solid, solid, ih]

theorem solid_cons_eq_nil_iff {l : List Char} {ls : List (List Char)} :
    solid (l :: ls) = [] ↔ l = [] ∧ solid ls = [] := by
  by_cases h : solid ls = []
  · rw [solid_cons_of_nil l h]
    cases l <;> simp [h]
  · simp [solid_cons_of_ne_nil l h, h]

/-- The lines of a text up to the last that is not empty are those of the text without the
feeds at its end. -/
theorem solid_pieces (s : List Char) :
    solid (pieces s) = if dropEndWhile (· == '\n') s = [] then []
      else pieces (dropEndWhile (· == '\n') s) := by
  induction s with
  | nil => rfl
  | cons c s ih =>
    obtain ⟨p, ps, hp, hc⟩ := pieces_cons c s
    rw [hp] at ih
    rw [hc, dropEndWhile]
    cases kept : dropEndWhile (· == '\n') s with
    | nil =>
      rw [kept, if_pos rfl] at ih
      by_cases feed : c = '\n'
      · simp [feed, solid_cons_of_nil [] ih]
      · obtain ⟨rfl, none⟩ := solid_cons_eq_nil_iff.mp ih
        simp [feed, solid_cons_of_nil [c] none, pieces]
    | cons k ks =>
      obtain ⟨q, qs, hq, hcq⟩ := pieces_cons c (k :: ks)
      rw [kept, if_neg (List.cons_ne_nil k ks), hq] at ih
      rw [if_neg (List.cons_ne_nil c (k :: ks)), hcq]
      by_cases feed : c = '\n'
      · have some : solid (p :: ps) ≠ [] := ih ▸ List.cons_ne_nil q qs
        rw [if_pos feed, if_pos feed, solid_cons_of_ne_nil [] some, ih]
      · rw [if_neg feed, if_neg feed]
        by_cases none : solid ps = []
        · rw [solid_cons_of_nil p none] at ih
          rw [solid_cons_of_nil (c :: p) none]
          split at ih
          · cases ih
          · cases ih
            rfl
        · rw [solid_cons_of_ne_nil p none] at ih
          cases ih
          exact solid_cons_of_ne_nil (c :: p) none

/-! ### Readings of texts -/

/-- What is read of a text is what is read of its lines, one after the other. -/
structure LineByLine {α : Type} (f : List Char → List α) : Prop where
  nil : f [] = []
  append_feed : ∀ s rest, f (s ++ '\n' :: rest) = f s ++ f rest

namespace LineByLine

variable {α : Type} {f : List Char → List α}

theorem flatMap_intercalate (h : LineByLine f) : ∀ ls : List (List Char),
    f (['\n'].intercalate ls) = ls.flatMap f
  | [] => h.nil
  | [l] => by rw [List.intercalate_singleton, List.flatMap_singleton]
  | l :: k :: ls => by
    rw [List.intercalate_cons_cons, List.append_assoc, List.singleton_append, h.append_feed,
      flatMap_intercalate h (k :: ls)]
    rfl

theorem flatMap_pieces (h : LineByLine f) (s : List Char) : (pieces s).flatMap f = f s := by
  rw [← h.flatMap_intercalate, intercalate_pieces]

theorem flatMap_unlines (h : LineByLine f) (ls : List (List Char)) :
    f (unlines ls) = ls.flatMap f := by
  induction ls with
  | nil => exact h.nil
  | cons l ls ih =>
    have first : unlines (l :: ls) = l ++ '\n' :: unlines ls := List.append_cons .. |>.symm
    rw [first, h.append_feed, ih, List.flatMap_cons]

end LineByLine

/-! ### Bare lines -/

/-- A line without the blanks at its ends. -/
def bare (line : List Char) : List Char := trimStart (trimEnd line)

/-- The lines of a text that are not blank, without the blanks at their ends. -/
def bareLines (s : List Char) : List (List Char) :=
  ((pieces s).map bare).filter (! ·.isEmpty)

/-- The bare lines of texts, one text after the other. -/
def linesOf (texts : List String) : List (List Char) := texts.flatMap fun t => bareLines t.toList

theorem bareLines_nil : bareLines [] = [] := rfl

theorem bareLines_append_feed (s rest : List Char) :
    bareLines (s ++ '\n' :: rest) = bareLines s ++ bareLines rest := by
  rw [bareLines, pieces_append_feed, List.map_append, List.filter_append]
  rfl

theorem lineByLine_bareLines : LineByLine bareLines := ⟨rfl, bareLines_append_feed⟩

/-! ### Blanks -/

theorem isBlankText_append (s t : List Char) :
    isBlankText (s ++ t) = (isBlankText s && isBlankText t) :=
  List.all_append

theorem isBlankText_flatMap_feed (ps : List (List Char)) :
    isBlankText (ps.flatMap ('\n' :: ·)) = ps.all isBlankText :=
  List.all_flatMap

theorem isBlankText_unlines (ls : List (List Char)) :
    isBlankText (unlines ls) = ls.all isBlankText := by
  induction ls with
  | nil => rfl
  | cons l ls ih =>
    have first : unlines (l :: ls) = l ++ '\n' :: unlines ls := (List.append_cons ..).symm
    rw [first, isBlankText_append, List.all_cons, ← ih]
    rfl

theorem bare_cons_of_isBlank {c : Char} (h : isBlank c = true) (line : List Char) :
    bare (c :: line) = bare line := by
  rw [bare, bare, trimEnd, dropEndWhile, ← trimEnd]
  cases trimEnd line with
  | nil => rw [if_pos h]
  | cons d kept => exact List.dropWhile_cons_of_pos h

theorem bareLines_cons_of_isBlank {c : Char} (h : isBlank c = true) (s : List Char) :
    bareLines (c :: s) = bareLines s := by
  obtain ⟨p, ps, hp, hc⟩ := pieces_cons c s
  rw [bareLines, bareLines, hp, hc]
  split
  · rfl
  · rw [List.map_cons, List.map_cons, bare_cons_of_isBlank h]

/-- Blanks before a text do not count. -/
theorem bareLines_blanks_append {blanks : List Char} (h : ∀ c ∈ blanks, isBlank c = true)
    (s : List Char) : bareLines (blanks ++ s) = bareLines s := by
  induction blanks with
  | nil => rfl
  | cons c blanks ih =>
    rw [List.cons_append, bareLines_cons_of_isBlank (h c (List.mem_cons_self ..))]
    exact ih fun d hd => h d (List.mem_cons_of_mem _ hd)

theorem bareLines_of_isBlankText {s : List Char} (h : isBlankText s = true) :
    bareLines s = [] := by
  have nothing := bareLines_blanks_append (List.all_eq_true.mp h) []
  rw [List.append_nil] at nothing
  exact nothing

theorem map_trimEnd_pieces_concat {c : Char} (h : isBlank c = true) (ne : c ≠ '\n')
    (s : List Char) : (pieces (s ++ [c])).map trimEnd = (pieces s).map trimEnd := by
  induction s with
  | nil =>
    have only : pieces [c] = [[c]] := by rw [pieces, if_neg ne, pieces]
    show (pieces [c]).map trimEnd = [[]]
    rw [only, List.map_singleton, trimEnd, dropEndWhile, dropEndWhile, if_pos h]
  | cons d s ih =>
    obtain ⟨p, ps, hp, hd⟩ := pieces_cons d s
    obtain ⟨q, qs, hq, hdq⟩ := pieces_cons d (s ++ [c])
    rw [hp, hq] at ih
    rw [List.cons_append, hd, hdq]
    split
    · exact congrArg (trimEnd [] :: ·) ih
    · obtain ⟨first, rest⟩ := List.cons.inj ih
      rw [List.map_cons, List.map_cons, rest, trimEnd, trimEnd, dropEndWhile, dropEndWhile,
        ← trimEnd, ← trimEnd, first]

/-- Nor do blanks after it. -/
theorem bareLines_append_blanks {blanks : List Char} (h : ∀ c ∈ blanks, isBlank c = true)
    (s : List Char) : bareLines (s ++ blanks) = bareLines s := by
  induction blanks generalizing s with
  | nil => rw [List.append_nil]
  | cons c blanks ih =>
    have blank := h c (List.mem_cons_self ..)
    rw [List.append_cons, ih fun d hd => h d (List.mem_cons_of_mem _ hd)]
    by_cases feed : c = '\n'
    · rw [feed, bareLines_append_feed, bareLines_nil, List.append_nil]
    · have bare_eq : (pieces (s ++ [c])).map bare = (pieces s).map bare := by
        have ends := congrArg (List.map trimStart) (map_trimEnd_pieces_concat blank feed s)
        rw [List.map_map, List.map_map] at ends
        exact ends
      rw [bareLines, bare_eq, bareLines]

theorem bareLines_trimEnd (s : List Char) : bareLines (trimEnd s) = bareLines s := by
  obtain ⟨dropped, hs, blanks⟩ := dropEndWhile_spec isBlank s
  have ends : bareLines s = bareLines (trimEnd s ++ dropped) := congrArg bareLines hs
  rw [ends, bareLines_append_blanks blanks]

end Cratewright.Text
