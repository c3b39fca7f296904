/-
Paths above paths.

A path without its last component is a start of the path, text and components alike. So the
directories above a path are at the places that the starts of its components lead to:

* `Path.isAbove_of_parent?` — the path above another;
* `Path.isPrefix_of_mem_ancestors` — all the paths above another;
* `Path.filter_steps` — the steps of a path are its components, dots apart.
-/
import Mathlib.Data.List.TakeWhile
import Cratewright.Proofs.Files.Locations

namespace Cratewright.Path

/-! ### Pieces of a path -/

theorem intercalate_isPrefix {sep : Char} {ps qs : List (List Char)} (h : ps <+: qs) :
    [sep].intercalate ps <+: [sep].intercalate qs := by
  cases ps with
  | nil => exact List.nil_prefix
  | cons p ps =>
    obtain ⟨more, rfl⟩ := h
    rw [List.cons_append, Text.intercalate_cons, Text.intercalate_cons, List.flatMap_append]
    exact (List.prefix_append_right_inj p).mpr (List.prefix_append _ _)

/-- Pieces without slashes are those of the path that they make up, except that no piece makes
up an empty one. -/
theorem splitAt_intercalate {ps : List (List Char)} (ne : ps ≠ []) (h : ∀ p ∈ ps, '/' ∉ p) :
    Text.splitAt '/' (['/'].intercalate ps) = ps := by
  induction ps with
  | nil => exact absurd rfl ne
  | cons p ps ih =>
    have first := Text.splitAt_of_not_mem (h p (List.mem_cons_self ..))
    cases ps with
    | nil => simpa using first
    | cons q ps =>
      have rest := ih (List.cons_ne_nil q ps) fun r hr => h r (List.mem_cons_of_mem p hr)
      rw [List.intercalate_cons_cons, List.append_assoc, List.singleton_append,
        Text.splitAt_append_cons, first, rest, List.singleton_append]

theorem inner_intercalate {ps : List (List Char)} (h : ∀ p ∈ ps, '/' ∉ p) :
    inner (['/'].intercalate ps) = ps.filterMap component? := by
  cases ps with
  | nil => rfl
  | cons p ps => rw [inner, splitAt_intercalate (List.cons_ne_nil p ps) h]

/-- The pieces of a path are some that are kept, the last one that means something, and around
that some that mean nothing. -/
theorem exists_pieces {ps : List (List Char)} {p : List Char} {rest : List (List Char)}
    (h : dropIdle ps.reverse = p :: rest) : ∃ idle last : List (List Char),
      ps = (dropIdle rest).reverse ++ idle ++ p :: last ∧
      (∀ s ∈ idle, component? s = none) ∧ (∀ s ∈ last, component? s = none) ∧
      ∃ c, component? p = some c := by
  have dropped (l : List (List Char)) : ∃ idle, l = idle ++ dropIdle l ∧
      ∀ s ∈ idle, component? s = none := by
    refine ⟨_, (List.takeWhile_append_dropWhile ..).symm, fun s hs => ?_⟩
    exact Option.isNone_iff_eq_none.mp (List.all_eq_true.mp List.all_takeWhile s hs)
  obtain ⟨last, parts, outer⟩ := dropped ps.reverse
  obtain ⟨idle, kept, between⟩ := dropped rest
  rw [h] at parts
  refine ⟨idle.reverse, last.reverse, ?_, fun s hs => between s (List.mem_reverse.mp hs),
    fun s hs => outer s (List.mem_reverse.mp hs), ?_⟩
  · rw [← List.reverse_reverse ps, parts, List.reverse_append, List.reverse_cons,
      ← List.reverse_append, ← kept, List.append_assoc]
    rfl
  · have full := List.head?_dropWhile_not (fun s => (component? s).isNone) ps.reverse
    rw [show List.dropWhile _ ps.reverse = p :: rest from h] at full
    exact Option.isSome_iff_exists.mp (by simpa using full)

/-! ### Starts of a path -/

/-- How a path is split into a start and what is separated. -/
inductive Splits : List Char → List Component → List Char → Prop where
  | rooted (body : List Char) : Splits ('/' :: body) [.root] body
  | dot : Splits ['.'] [.current] []
  | inside (rest : List Char) : Splits ('.' :: '/' :: rest) [.current] ('/' :: rest)
  | plain {s : List Char} (rooted : ∀ rest, s ≠ '/' :: rest) (dot : s ≠ ['.'])
    (inside : ∀ rest, s ≠ '.' :: '/' :: rest) : Splits s [] s

theorem splits (s : List Char) : Splits s (split s).1 (split s).2 := by
  rw [split.eq_def]
  split
  · exact .rooted _
  · exact .dot
  · exact .inside _
  · rename_i rooted dot inside
    exact .plain rooted dot inside

theorem Splits.eq {s body : List Char} {start : List Component} (h : Splits s start body) :
    split s = (start, body) := by
  cases h with
  | rooted | dot | inside => rfl
  | plain rooted dot inside =>
    rw [split.eq_def]
    split
    · exact absurd rfl (rooted _)
    · exact absurd rfl dot
    · exact absurd rfl (inside _)
    · rfl

/-- The letters of a start. -/
def letters (start : List Component) : List Char := start.flatMap fun c => c.text.toList

theorem Splits.letters_append {s body : List Char} {start : List Component}
    (h : Splits s start body) : letters start ++ body = s := by
  cases h <;> rfl

theorem Splits.toList_join {s body : List Char} {start : List Component}
    (h : Splits s start body) :
    (String.join (start.map Component.text)).toList = letters start := by
  cases h <;> rfl

/-- A path that goes only part of the way starts alike. -/
theorem Splits.of_isPrefix {s body part : List Char} {start : List Component}
    (h : Splits s start body) (hp : part <+: body) (ne : start = [] → part ≠ ['.']) :
    Splits (letters start ++ part) start part := by
  cases h with
  | rooted => exact .rooted part
  | dot =>
    rw [List.prefix_nil.mp hp]
    exact .dot
  | inside rest =>
    cases part with
    | nil => exact .dot
    | cons c part =>
      obtain ⟨rfl, _⟩ := List.cons_prefix_cons.mp hp
      exact .inside part
  | plain rooted dot inside =>
    obtain ⟨more, rfl⟩ := hp
    refine .plain ?_ (ne rfl) ?_
    · rintro rest rfl
      exact rooted _ rfl
    · rintro rest rfl
      exact inside _ rfl

/-! ### The path above -/

/-- The path above another has its start, and of its pieces those that are kept. -/
inductive IsAbove (path : String) : String → Prop where
  /-- Nothing is above a single dot. -/
  | dot : components path = [.current] → IsAbove path ""
  | part {above : String} (start : List Component) (kept : List (List Char)) (c : Component) :
    components path = start ++ kept.filterMap component? ++ [c] → c ≠ .current →
    Splits above.toList start (['/'].intercalate kept) →
    (∀ p ∈ kept, '/' ∉ p) → (∀ p, kept.getLast? = some p → component? p ≠ none) →
    above.toList <+: path.toList → IsAbove path above

theorem parent?_eq {path : String} {start : List Component} {body : List Char}
    (hstart : (split path.toList).1 = start) (hbody : (split path.toList).2 = body) :
    parent? path = match dropIdle (Text.splitAt '/' body).reverse with
      | _ :: rest => some (String.join (start.map Component.text) ++
          "/".intercalate ((dropIdle rest).reverse.map String.ofList))
      | [] => if start = [.current] then some "" else none := by
  rw [← hstart, ← hbody]
  rfl

theorem inner_of_dropIdle {body : List Char}
    (h : dropIdle (Text.splitAt '/' body).reverse = []) : inner body = [] := by
  refine List.filterMap_eq_nil_iff.mpr fun p hp => ?_
  have idle := List.dropWhile_eq_nil_iff.mp h p (List.mem_reverse.mpr hp)
  exact Option.isNone_iff_eq_none.mp idle

theorem isAbove_of_parent? {path above : String} (h : parent? path = some above) :
    IsAbove path above := by
  have split := splits path.toList
  generalize hstart : (Path.split path.toList).1 = start at split
  generalize hbody : (Path.split path.toList).2 = body at split
  have parts : components path = start ++ inner body := by
    rw [← hstart, ← hbody]
    rfl
  rw [parent?_eq hstart hbody] at h
  cases found : dropIdle (Text.splitAt '/' body).reverse with
  | nil =>
    rw [found] at h
    dsimp only at h
    split at h
    · rename_i current
      cases h
      exact .dot (by rw [parts, inner_of_dropIdle found, current]; rfl)
    · cases h
  | cons p rest =>
    obtain ⟨idle, last, pieces, between, behind, c, hc⟩ := exists_pieces found
    rw [found] at h
    cases h
    let kept := (dropIdle rest).reverse
    have text : (String.join (start.map Component.text) ++
        "/".intercalate (kept.map String.ofList)).toList =
          letters start ++ ['/'].intercalate kept := by
      rw [String.toList_append, split.toList_join, String.toList_intercalate, List.map_map]
      simp [Function.comp_def]
    have sub : kept <+: Text.splitAt '/' body := by
      rw [pieces, List.append_assoc]
      exact List.prefix_append _ _
    have start_eq : ['/'].intercalate kept <+: body := by
      have whole : ['/'].intercalate kept <+: ['/'].intercalate (Text.splitAt '/' body) :=
        intercalate_isPrefix sub
      rwa [Text.intercalate_splitAt] at whole
    have meant : ∀ p, kept.getLast? = some p → component? p ≠ none := by
      intro p last
      rw [List.getLast?_reverse] at last
      have full := List.head?_dropWhile_not (fun s => (component? s).isNone) rest
      rw [show List.dropWhile _ rest = dropIdle rest from rfl, last] at full
      exact Option.isSome_iff_ne_none.mp (by simpa using full)
    have slashes : ∀ p ∈ kept, '/' ∉ p := fun p hp =>
      Text.not_mem_of_mem_splitAt (sub.subset hp)
    refine .part start kept c ?_ ?_ ?_ slashes meant ?_
    · rw [parts, inner, pieces, List.filterMap_append, List.filterMap_append,
        List.filterMap_eq_nil_iff.mpr between, List.append_nil, List.filterMap_cons_some hc,
        List.filterMap_eq_nil_iff.mpr behind, List.append_assoc]
    · intro current
      rw [current] at hc
      rcases (component?_eq_some hc).2 with h | h <;> cases h
    · rw [text]
      refine split.of_isPrefix start_eq fun _ dot => ?_
      -- A single dot would be a piece that is not kept.
      have single : kept = [['.']] := by
        cases hk : kept with
        | nil => rw [hk] at dot; cases dot
        | cons q qs =>
          rw [hk] at slashes
          rw [← splitAt_intercalate (List.cons_ne_nil q qs) slashes, ← hk, dot]
          rfl
      exact meant ['.'] (by rw [single]; rfl) rfl
    · rw [text, ← split.letters_append]
      exact (List.prefix_append_right_inj _).mpr start_eq

/-- Nothing is above a path that goes nowhere or to the root. -/
theorem components_of_parent?_eq_none {path : String} (h : parent? path = none) :
    components path = [] ∨ components path = [.root] := by
  have split := splits path.toList
  generalize hstart : (Path.split path.toList).1 = start at split
  generalize hbody : (Path.split path.toList).2 = body at split
  have parts : components path = start ++ inner body := by
    rw [← hstart, ← hbody]
    rfl
  rw [parent?_eq hstart hbody] at h
  cases found : dropIdle (Text.splitAt '/' body).reverse with
  | nil =>
    rw [found] at h
    rw [parts, inner_of_dropIdle found, List.append_nil]
    generalize path.toList = s at split
    cases split with
    | rooted => exact .inr rfl
    | dot | inside => cases h
    | plain => exact .inl rfl
  | cons p rest =>
    rw [found] at h
    cases h

variable {path above : String}

theorem Splits.components {start : List Component} {body : List Char}
    (h : Splits path.toList start body) : components path = start ++ inner body := by
  rw [Path.components, h.eq]
  rfl

/-- The path above another lacks its last component, which is a dot only if it is all. -/
theorem IsAbove.components (h : IsAbove path above) : ∃ c,
    components path = components above ++ [c] ∧
      (c = .current → components path = [.current]) := by
  cases h with
  | dot current => exact ⟨.current, current, fun _ => current⟩
  | part start kept c parts meant split slashes =>
    exact ⟨c, by rw [parts, split.components, inner_intercalate slashes], fun h => absurd h meant⟩

theorem IsAbove.isPrefix (h : IsAbove path above) : above.toList <+: path.toList := by
  cases h with
  | dot => exact List.nil_prefix
  | part _ _ _ _ _ _ _ _ sub => exact sub

theorem exists_climbFrom (n : Nat) (path : String) :
    ∃ above, ancestors.climbFrom n path = path :: above := by
  cases n with
  | zero => exact ⟨[], rfl⟩
  | succ n =>
    rw [ancestors.climbFrom]
    split <;> exact ⟨_, rfl⟩

/-- The paths above a path are starts of it, text and components alike. -/
theorem isPrefix_of_mem_ancestors {above : String} (h : above ∈ ancestors path) :
    components above <+: components path ∧ above.toList <+: path.toList := by
  have climb (n : Nat) : ∀ {path : String}, above ∈ ancestors.climbFrom n path →
      components above <+: components path ∧ above.toList <+: path.toList := by
    induction n with
    | zero =>
      intro path h
      rw [List.mem_singleton.mp h]
      exact ⟨List.prefix_refl _, List.prefix_refl _⟩
    | succ n ih =>
      intro path h
      rw [ancestors.climbFrom] at h
      split at h
      · rename_i next found
        have isAbove := isAbove_of_parent? found
        rcases List.mem_cons.mp h with rfl | h
        · exact ⟨List.prefix_refl _, List.prefix_refl _⟩
        · obtain ⟨c, parts, -⟩ := isAbove.components
          obtain ⟨components, text⟩ := ih h
          exact ⟨components.trans (parts ▸ List.prefix_append _ _), text.trans isAbove.isPrefix⟩
      · rw [List.mem_singleton.mp h]
        exact ⟨List.prefix_refl _, List.prefix_refl _⟩
  exact climb _ h

/-! ### Steps -/

theorem slash_not_mem {name : String} (h : .normal name ∈ components path) :
    '/' ∉ name.toList := by
  obtain ⟨start, parts, initial⟩ := components_eq path
  rw [parts, List.mem_append] at h
  rcases h with h | h
  · rcases initial with ⟨-, rfl⟩ | ⟨-, rfl | ⟨rfl, -⟩⟩ <;> simp at h
  · obtain ⟨s, mem, found⟩ := List.mem_filterMap.mp h
    rcases (component?_eq_some found).2 with h | h
    · cases h
    · rw [Component.normal.inj h, String.toList_ofList]
      exact Text.not_mem_of_mem_splitAt mem

/-- The steps of a path are its components, dots apart. -/
theorem filter_steps (path : String) :
    (steps path).filter (· ≠ .current) = (components path).filter (· ≠ .current) := by
  have pieces (ps : List (List Char)) :
      ((ps.filter (! ·.isEmpty)).map fun s => (component? s).getD .current).filter
        (· ≠ .current) = ps.filterMap component? := by
    induction ps with
    | nil => rfl
    | cons p ps ih =>
      cases found : component? p with
      | none =>
        rw [List.filterMap_cons_none found, ← ih, List.filter_cons]
        split
        · rw [List.map_cons, found]
          rfl
        · rfl
      | some c =>
        obtain ⟨full, meant⟩ := component?_eq_some found
        have shown : (! p.isEmpty) = true := by simpa using full
        have ne : c ≠ .current := by rcases meant with rfl | rfl <;> nofun
        rw [List.filterMap_cons_some found, ← ih, List.filter_cons, if_pos shown, List.map_cons,
          found]
        exact List.filter_cons_of_pos (decide_eq_true ne)
  have meant : (inner path.toList).filter (· ≠ .current) = inner path.toList := by
    rw [inner, ← pieces, List.filter_filter]
    simp
  obtain ⟨start, parts, initial⟩ := components_eq path
  rw [steps_eq, parts, List.filter_append, List.filter_append, meant, innerSteps, pieces]
  rcases initial with ⟨absolute, rfl⟩ | ⟨relative, rfl | ⟨rfl, -⟩⟩
  · rw [absolute]
    rfl
  · rw [relative]
    rfl
  · rw [relative]
    rfl

theorem innerSteps_piece {p : List Char} {c : Component} (slash : '/' ∉ p)
    (h : component? p = some c) : innerSteps p = [c] := by
  have full : (! p.isEmpty) = true := by simpa using (component?_eq_some h).1
  rw [innerSteps, Text.splitAt_of_not_mem slash, List.filter_cons, if_pos full, List.filter_nil,
    List.map_singleton, h]
  rfl

/-- The path above another is empty or a dot, or its last step is none. -/
theorem IsAbove.exists_steps (h : IsAbove path above) :
    above = "" ∨ above = "." ∨ ∃ front c, steps above = front ++ [c] ∧ c ≠ .current := by
  cases h with
  | dot => exact .inl rfl
  | part start kept c parts _ split slashes meant sub =>
    rcases List.eq_nil_or_concat' kept with rfl | ⟨front, p, rfl⟩
    · generalize text : above.toList = s at split
      cases split with
      | rooted =>
        have slash : above = "/" := String.toList_inj.mp text
        exact .inr (.inr ⟨[], .root, by rw [slash]; decide, nofun⟩)
      | dot => exact .inr (.inl (String.toList_inj.mp text))
      | plain => exact .inl (String.toList_inj.mp text)
    · obtain ⟨d, hd⟩ := Option.ne_none_iff_exists'.mp (meant p List.getLast?_concat)
      have slash : '/' ∉ p := slashes p (List.mem_append_right _ (List.mem_singleton_self p))
      have ne : d ≠ .current := by
        rcases (component?_eq_some hd).2 with rfl | rfl <;> nofun
      -- The last piece is behind a slash, or it is the whole path.
      have ends : (∃ s, above.toList = s ++ '/' :: p) ∨ above.toList = p := by
        cases front with
        | nil =>
          have only : ['/'].intercalate ([] ++ [p]) = p := List.intercalate_singleton
          rw [only] at split
          generalize text : above.toList = s at split
          cases split with
          | rooted => exact .inl ⟨[], rfl⟩
          | dot => cases hd
          | inside => exact absurd (List.mem_cons_self ..) slash
          | plain => exact .inr rfl
        | cons q front =>
          refine .inl ⟨letters start ++ ['/'].intercalate (q :: front), ?_⟩
          rw [← split.letters_append, List.cons_append, Text.intercalate_cons,
            Text.intercalate_cons, List.flatMap_append, List.flatMap_singleton]
          simp only [List.append_assoc]
      refine .inr (.inr ?_)
      rcases ends with ⟨s, text⟩ | text
      · refine ⟨(if isAbsolute above then [.root] else []) ++ innerSteps s, d, ?_, ne⟩
        rw [steps_eq, text, innerSteps_append_cons, innerSteps_piece slash hd, List.append_assoc]
      · refine ⟨if isAbsolute above then [.root] else [], d, ?_, ne⟩
        rw [steps_eq, text, innerSteps_piece slash hd]

end Cratewright.Path
