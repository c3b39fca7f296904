/-
The words of a name.

A word is not empty, and consists of letters and numbers. No letter or number has a
separator in its lower-case form, so the words of a name can be told, up to letter case,
from what they are joined to:

* `isWord_of_mem` — the words of a name;
* `IsSeparator.not_mem_lowerWord` — separators do not come from letter case;
* `snakeCase_eq_iff`, `kebabCase_eq_iff` — which names have one form.
-/
import Mathlib.Data.List.Basic
import Cratewright.Text.Words

namespace Cratewright.Text

/-! ### Words -/

/-- A text of letters and numbers that is not empty. -/
structure IsWord (w : List Char) : Prop where
  ne_nil : w ≠ []
  alphanumeric : ∀ c ∈ w, isAlphanumeric c = true

theorem IsWord.singleton {c : Char} (h : isAlphanumeric c = true) : IsWord [c] where
  ne_nil := List.cons_ne_nil _ _
  alphanumeric := by simpa using h

theorem IsWord.cons {c : Char} {w : List Char} (h : isAlphanumeric c = true) (hw : IsWord w) :
    IsWord (c :: w) where
  ne_nil := List.cons_ne_nil _ _
  alphanumeric := by simpa [h] using hw.alphanumeric

theorem isWord_of_mem_runs {s w : List Char} (h : w ∈ alphanumericRuns s) : IsWord w := by
  -- The first run may be longer by one character than that of the rest.
  induction s generalizing w with
  | nil => cases h
  | cons c rest ih =>
    by_cases alphanumeric : isAlphanumeric c = true
    case neg =>
      rw [alphanumericRuns.eq_def] at h
      simp only [alphanumeric] at h
      exact ih h
    rw [alphanumericRuns.eq_def] at h
    simp only [alphanumeric, ↓reduceIte] at h
    split at h
    · rw [List.mem_singleton.mp h]
      exact .singleton alphanumeric
    split at h
    · split at h
      · rw [List.mem_singleton.mp h]
        exact .singleton alphanumeric
      · rename_i run runs found
        rw [found] at ih
        rcases List.mem_cons.mp h with rfl | h
        · exact .cons alphanumeric (ih (List.mem_cons_self ..))
        · exact ih (List.mem_cons_of_mem _ h)
    · rcases List.mem_cons.mp h with rfl | h
      · exact .singleton alphanumeric
      · exact ih h

/-- The parts that a run is cut into are not empty, and make up the run. Where a part is cut
off before a character, some character has been read. -/
theorem camelWords_spec (word : List Char) (mode : CaseMode) (h : word = [] → mode ≠ .upper)
    {s : List Char} (hs : s ≠ []) :
    (camelWords word mode s).flatten = word.reverse ++ s ∧
      ∀ w ∈ camelWords word mode s, w ≠ [] := by
  induction word, mode, s using camelWords.induct with
  | case1 => exact absurd rfl hs
  | case2 word mode c => simp [camelWords]
  | case3 word mode c d rest _ after ih =>
    have ⟨flat, ne⟩ := ih (by simp) (by simp)
    rw [camelWords, if_pos after]
    refine ⟨by simp [flat], fun w hw => ?_⟩
    rcases List.mem_cons.mp hw with rfl | hw
    · simp
    · exact ne w hw
  | case4 word mode c d rest _ after before ih =>
    have ⟨flat, ne⟩ := ih (by simp) (by simp)
    -- Only after an upper-case letter is a word cut off before the character.
    have some : word ≠ [] := fun none => h none (by grind)
    rw [camelWords, if_neg after, if_pos before]
    refine ⟨by simpa using flat, fun w hw => ?_⟩
    rcases List.mem_cons.mp hw with rfl | hw
    · simpa using some
    · exact ne w hw
  | case5 word mode c d rest _ after before ih =>
    have ⟨flat, ne⟩ := ih (by simp) (by simp)
    rw [camelWords, if_neg after, if_neg before]
    exact ⟨by simpa using flat, ne⟩

theorem isWord_of_mem {name w : List Char} (h : w ∈ nameWords name) : IsWord w := by
  obtain ⟨run, hrun, hw⟩ := List.mem_flatMap.mp h
  have isWord := isWord_of_mem_runs hrun
  have ⟨flat, ne⟩ := camelWords_spec [] .boundary (by simp) isWord.ne_nil
  refine ⟨ne w hw, fun c hc => isWord.alphanumeric c ?_⟩
  have mem : c ∈ (camelWords [] .boundary run).flatten := List.mem_flatten.mpr ⟨w, hw, hc⟩
  rwa [flat] at mem

/-! ### Lower case -/

/-- A character below the lower-case letters that is neither a letter nor a number. -/
structure IsSeparator (c : Char) : Prop where
  not_alphanumeric : isAlphanumeric c = false
  pos : 0 < c.toNat
  lt : c.toNat < 0x61

theorem isSeparator_hyphen : IsSeparator '-' := ⟨by decide, by decide, by decide⟩

theorem isSeparator_underscore : IsSeparator '_' := ⟨by decide, by decide, by decide⟩

theorem isSeparator_slash : IsSeparator '/' := ⟨by decide, by decide, by decide⟩

/-- A code point from the lower-case letters on is not that of a separator. -/
theorem IsSeparator.ne_ofNat {sep : Char} (h : IsSeparator sep) {n : Nat} (hn : 0x61 ≤ n) :
    sep ≠ Char.ofNat n := by
  rintro rfl
  by_cases valid : n.isValidChar
  · have char : Char.ofNat n = Char.ofNatAux n valid := dif_pos valid
    have lt := h.lt
    rw [char] at lt
    exact absurd lt (Nat.not_lt.mpr hn)
  · have none : Char.ofNat n = '\x00' := dif_neg valid
    have pos := h.pos
    rw [none] at pos
    exact absurd pos (by decide)

/-- What changes in lower case comes to stand at a lower-case letter or above. -/
theorem le_of_mem_lowerShifts : ∀ s ∈ lowerShifts, (0x61 : Int) ≤ s.range.first + s.distance := by
  decide +kernel

theorem shift_lowerShifts (n : Nat) : shift lowerShifts n = n ∨ 0x61 ≤ shift lowerShifts n := by
  rw [shift]
  cases found : lowerShifts.find? (·.range.contains n) with
  | none => exact .inl rfl
  | some s =>
    have le := le_of_mem_lowerShifts s (List.mem_of_find?_eq_some found)
    have inside := List.find?_some found
    simp only [CodeRange.contains, Bool.and_eq_true, decide_eq_true_eq] at inside
    refine .inr ?_
    show 0x61 ≤ (n + s.distance).toNat
    omega

theorem IsSeparator.not_mem_toLower {sep c : Char} (h : IsSeparator sep)
    (hc : isAlphanumeric c = true) : sep ∉ toLower c := by
  rw [toLower, mapCase]
  cases found : lowerExpansions.find? (·.1 == c.toNat) with
  | some e =>
    rw [List.mem_singleton.mp (List.mem_of_find?_eq_some found)]
    simp [h.ne_ofNat]
  | none =>
    rw [List.mem_singleton]
    -- Either the character is its own lower-case form, or this is no separator.
    rcases shift_lowerShifts c.toNat with same | above
    · rintro rfl
      rw [same, Char.ofNat_toNat] at h
      exact absurd (h.not_alphanumeric ▸ hc) (by decide)
    · exact h.ne_ofNat above

theorem toLower_ne_nil (c : Char) : toLower c ≠ [] := by
  rw [toLower, mapCase]
  cases found : lowerExpansions.find? (·.1 == c.toNat) with
  | some e =>
    rw [List.mem_singleton.mp (List.mem_of_find?_eq_some found)]
    exact List.cons_ne_nil _ _
  | none => exact List.cons_ne_nil _ _

theorem IsSeparator.not_mem_lowerWord {sep : Char} (h : IsSeparator sep) :
    ∀ {w : List Char}, (∀ c ∈ w, isAlphanumeric c = true) → sep ∉ lowerWord w
  | [], _ => List.not_mem_nil
  | [c], hw => by
    rw [lowerWord]
    split
    · rw [List.mem_singleton]
      exact h.ne_ofNat (n := 0x3c2) (by decide)
    · exact h.not_mem_toLower (hw c (List.mem_singleton_self c))
  | c :: d :: rest, hw => by
    rw [lowerWord.eq_3 c (d :: rest) (by simp), List.mem_append, not_or]
    exact ⟨h.not_mem_toLower (hw c (List.mem_cons_self ..)),
      h.not_mem_lowerWord fun e he => hw e (List.mem_cons_of_mem _ he)⟩

theorem IsWord.lowerWord_ne_nil {w : List Char} (h : IsWord w) : lowerWord w ≠ [] := by
  cases w with
  | nil => exact absurd rfl h.ne_nil
  | cons c rest =>
    cases rest with
    | nil =>
      rw [lowerWord]
      split
      · exact List.cons_ne_nil _ _
      · exact toLower_ne_nil c
    | cons d rest =>
      rw [lowerWord.eq_3 c (d :: rest) (by simp)]
      exact List.append_ne_nil_of_left_ne_nil (toLower_ne_nil c) _

/-! ### Joined words -/

/-- The words of a name in lower case. -/
def lowerWords (name : String) : List (List Char) := (nameWords name.toList).map lowerWord

theorem toList_joinLower (sep : Char) (name : String) :
    (joinLower (String.singleton sep) name).toList = [sep].intercalate (lowerWords name) := by
  rw [joinLower, String.toList_intercalate, List.map_map, lowerWords]
  simp [Function.comp_def]

theorem exists_isWord_of_mem {name : String} {l : List Char} (h : l ∈ lowerWords name) :
    ∃ w, IsWord w ∧ l = lowerWord w := by
  obtain ⟨w, hw, rfl⟩ := List.mem_map.mp h
  exact ⟨w, isWord_of_mem hw, rfl⟩

/-- A text is split at the separator into the words that it was joined from. -/
theorem IsSeparator.lowerWords_eq {sep : Char} (h : IsSeparator sep) (name : String) :
    lowerWords name =
      if [sep].intercalate (lowerWords name) = [] then []
      else ([sep].intercalate (lowerWords name)).splitOn sep := by
  have apart : ∀ l ∈ lowerWords name, sep ∉ l := by
    intro l hl
    obtain ⟨w, isWord, rfl⟩ := exists_isWord_of_mem hl
    exact h.not_mem_lowerWord isWord.alphanumeric
  cases hw : lowerWords name with
  | nil => rfl
  | cons l ls =>
    have ne : l ≠ [] := by
      obtain ⟨w, isWord, rfl⟩ := exists_isWord_of_mem (hw ▸ List.mem_cons_self ..)
      exact isWord.lowerWord_ne_nil
    have joined : [sep].intercalate (l :: ls) ≠ [] := by
      cases ls with
      | nil => simpa using ne
      | cons k ks => simp [List.intercalate_cons_cons]
    rw [if_neg joined, List.splitOn_intercalate sep (hw ▸ apart) (List.cons_ne_nil _ _)]

theorem mem_intercalate {sep c : Char} : ∀ {ls : List (List Char)},
    c ∈ [sep].intercalate ls → c = sep ∨ ∃ l ∈ ls, c ∈ l
  | [], h => by cases h
  | [l], h => .inr ⟨l, List.mem_singleton_self l, by simpa using h⟩
  | l :: k :: ls, h => by
    rw [List.intercalate_cons_cons, List.mem_append, List.mem_append, List.mem_singleton] at h
    rcases h with (h | rfl) | h
    · exact .inr ⟨l, List.mem_cons_self .., h⟩
    · exact .inl rfl
    · rcases mem_intercalate h with rfl | ⟨w, hw, hc⟩
      · exact .inl rfl
      · exact .inr ⟨w, List.mem_cons_of_mem _ hw, hc⟩

/-- Of all separators, only the one that a name is joined by comes up in it. -/
theorem IsSeparator.eq_of_mem_joinLower {c sep : Char} (h : IsSeparator c) {name : String}
    (hc : c ∈ (joinLower (String.singleton sep) name).toList) : c = sep := by
  rw [toList_joinLower] at hc
  rcases mem_intercalate hc with same | ⟨l, hl, hc⟩
  · exact same
  · obtain ⟨w, isWord, rfl⟩ := exists_isWord_of_mem hl
    exact absurd hc (h.not_mem_lowerWord isWord.alphanumeric)

theorem IsSeparator.eq_of_mem_kebabCase {c : Char} (h : IsSeparator c) {name : String}
    (hc : c ∈ (kebabCase name).toList) : c = '-' := by
  have joined : c ∈ (joinLower (String.singleton '-') name).toList := hc
  exact h.eq_of_mem_joinLower joined

/-- Joined by a separator, names are equal if they have the same words up to letter case. -/
theorem IsSeparator.joinLower_eq_iff {sep : Char} (h : IsSeparator sep) (a b : String) :
    joinLower (String.singleton sep) a = joinLower (String.singleton sep) b ↔
      lowerWords a = lowerWords b := by
  rw [← String.toList_inj, toList_joinLower, toList_joinLower]
  constructor
  · intro same
    rw [h.lowerWords_eq a, h.lowerWords_eq b, same]
  · exact congrArg _

theorem snakeCase_eq_iff (a b : String) : snakeCase a = snakeCase b ↔ lowerWords a = lowerWords b :=
  isSeparator_underscore.joinLower_eq_iff a b

theorem kebabCase_eq_iff (a b : String) : kebabCase a = kebabCase b ↔ lowerWords a = lowerWords b :=
  isSeparator_hyphen.joinLower_eq_iff a b

end Cratewright.Text
