/-
Places that paths lead to.

A path can be followed without looking at what stands on the way: `FileTree.follow` resolves
its dots and double dots on the names of the place that it starts from. An operation that
succeeds comes to this place. A path is confined if it leads nowhere but to the place that it
starts from and to places below, whatever that place is:

* `FileTree.follow_join` — a path behind another is followed from where the first leads;
* `FileTree.follow_of_walk` — operations come to the place that a path leads to;
* `Path.isConfined_iff` — confined paths are those that climb back no further than they have
  gone down.
-/
import Mathlib.Data.List.Basic
import Cratewright.Files.Tree
import Cratewright.Outcome
import Cratewright.Proofs.Text.Lines

namespace Cratewright

/-! ### Paths behind paths -/

namespace Path

/-- The components that stand between the slashes of a path. -/
def inner (path : List Char) : List Component := (Text.splitAt '/' path).filterMap component?

theorem inner_append_cons (path rest : List Char) :
    inner (path ++ '/' :: rest) = inner path ++ inner rest := by
  rw [inner, Text.splitAt_append_cons, List.filterMap_append]
  rfl

theorem inner_slash (rest : List Char) : inner ('/' :: rest) = inner rest :=
  inner_append_cons [] rest

theorem inner_dot (rest : List Char) : inner ('.' :: '/' :: rest) = inner rest :=
  inner_append_cons ['.'] rest

end Path

namespace FileTree

/-- The place that a path leads to from another, whatever stands on the way. -/
def follow (start : List String) (path : String) : List String :=
  (Path.components path).foldl step start

/-- The place that a path leads to from the current directory. -/
def target (t : FileTree) (path : String) : List String := follow t.current path

theorem foldl_step_split (start : List String) (path : List Char) :
    ((Path.split path).1 ++ Path.inner (Path.split path).2).foldl step start =
      (Path.inner path).foldl step (if path.head? == some '/' then [] else start) := by
  rw [Path.split.eq_def]
  split
  · rw [Path.inner_slash]
    rfl
  · rfl
  · rw [Path.inner_dot, Path.inner_slash]
    rfl
  · rename_i absolute _ _
    have relative : (path.head? == some '/') = false := by
      rw [beq_eq_false_iff_ne]
      intro head
      obtain ⟨rest, h⟩ := List.head?_eq_some_iff.mp head
      exact absolute rest h
    rw [relative]
    rfl

/-- A path is followed from the root or from where it starts, between slash and slash. -/
theorem follow_eq (start : List String) (path : String) :
    follow start path =
      (Path.inner path.toList).foldl step (if Path.isAbsolute path then [] else start) :=
  foldl_step_split start path.toList

/-- What the start of a joined path is, if there is anything of it. -/
theorem toList_join {base path : String} (relative : Path.isAbsolute path = false)
    (ne : base ≠ "") : ∃ front : List Char, (Path.join base path).toList
      = front ++ '/' :: path.toList ∧ (base.toList = front ∨ base.toList = front ++ ['/']) := by
  have full : base.isEmpty = false := by simpa using ne
  rw [Path.join, if_neg (by rw [relative]; decide), full, Bool.false_or]
  split
  · rename_i slash
    obtain ⟨front, h⟩ := List.getLast?_eq_some_iff.mp (beq_iff_eq.mp slash)
    exact ⟨front, by rw [String.toList_append, h, List.append_assoc]; rfl, .inr h⟩
  · refine ⟨base.toList, ?_, .inl rfl⟩
    rw [String.toList_append, String.toList_append, List.append_assoc]
    rfl

/-- A joined path starts where its first part does. -/
theorem isAbsolute_join {base path : String} (relative : Path.isAbsolute path = false)
    (ne : base ≠ "") : Path.isAbsolute (Path.join base path) = Path.isAbsolute base := by
  obtain ⟨front, joined, h⟩ := toList_join relative ne
  have nonempty : base.toList ≠ [] := by simpa using ne
  rw [Path.isAbsolute, Path.isAbsolute, joined]
  rcases h with h | h
  · rw [h] at nonempty ⊢
    cases front with
    | nil => exact absurd rfl nonempty
    | cons => rfl
  · rw [h]
    cases front <;> rfl

/-- A path behind another is followed from where the first leads. -/
theorem follow_join (start : List String) (base path : String) :
    follow start (Path.join base path) = follow (follow start base) path := by
  cases relative : Path.isAbsolute path with
  | true =>
    rw [Path.join, if_pos relative, follow_eq, follow_eq, relative]
    rfl
  | false =>
    by_cases ne : base = ""
    · subst ne
      rw [Path.join, if_neg (by rw [relative]; decide)]
      exact congrArg (follow start) String.empty_append
    · obtain ⟨front, joined, h⟩ := toList_join relative ne
      -- A slash at the end of the first path leads nowhere.
      have inner : Path.inner base.toList = Path.inner front := by
        rcases h with h | h
        · rw [h]
        · rw [h, Path.inner_append_cons]
          exact List.append_nil _
      rw [follow_eq, isAbsolute_join relative ne, joined, Path.inner_append_cons,
        List.foldl_append, ← inner, ← follow_eq, follow_eq (follow start base), relative]
      rfl

/-! ### Where operations come to -/

variable {t : FileTree} {start place : List String} {base path : String}

theorem follow_of_walk {cs : List Path.Component} (h : t.walk start cs = .ok place) :
    place = cs.foldl step start := by
  induction cs generalizing start with
  | nil =>
    cases h
    rfl
  | cons c cs ih =>
    rw [walk] at h
    obtain ⟨_, _, h⟩ := Except.bind_eq_ok_iff.mp h
    obtain ⟨_, _, h⟩ := Except.bind_eq_ok_iff.mp h
    exact ih h

theorem enter_eq_ok_iff : t.enter place = .ok () ↔ t.node? place = some .directory := by
  rw [enter]
  cases t.node? place with
  | none => exact iff_of_false (fun h => by cases h) (fun h => by cases h)
  | some n =>
    cases n with
    | directory => exact iff_of_true rfl rfl
    | file c => exact iff_of_false (fun h => by cases h) (fun h => by cases h)

theorem of_directory (h : t.directory start path = .ok place) :
    place = follow start path ∧ t.node? place = some .directory := by
  obtain ⟨_, _, h⟩ := Except.bind_eq_ok_iff.mp h
  obtain ⟨end_, walked, h⟩ := Except.bind_eq_ok_iff.mp h
  obtain ⟨_, entered, h⟩ := Except.bind_eq_ok_iff.mp h
  cases h
  exact ⟨follow_of_walk walked, enter_eq_ok_iff.mp entered⟩

theorem of_place (h : t.place base path = .ok place) :
    place = follow (t.target base) path := by
  obtain ⟨start, directory, h⟩ := Except.bind_eq_ok_iff.mp h
  obtain ⟨_, _, h⟩ := Except.bind_eq_ok_iff.mp h
  rw [follow_of_walk h, (of_directory directory).1]
  rfl

end FileTree

/-! ### Confined paths -/

namespace Path

/-- Whether components, taken from a place that is `depth` names below another, never lead
out of that other place. -/
def staysInside : Nat → List Component → Bool
  | _, [] => true
  | _, .root :: _ => false
  | depth, .current :: rest => staysInside depth rest
  | 0, .parent :: _ => false
  | depth + 1, .parent :: rest => staysInside depth rest
  | depth, .normal _ :: rest => staysInside (depth + 1) rest

/-- Whether a path never leads out of the place that it starts from. -/
def isConfined (path : String) : Bool := staysInside 0 (components path)

theorem isPrefix_foldl_step {cs : List Component} {start down : List String}
    (h : staysInside down.length cs = true) : start <+: cs.foldl FileTree.step (start ++ down) := by
  induction cs generalizing down with
  | nil => exact List.prefix_append start down
  | cons c cs ih =>
    cases c with
    | root => cases h
    | current => exact ih h
    | parent =>
      rcases List.eq_nil_or_concat' down with rfl | ⟨front, last, rfl⟩
      · cases h
      · rw [List.length_append] at h
        have back : FileTree.step (start ++ (front ++ [last])) .parent = start ++ front := by
          rw [← List.append_assoc]
          exact List.dropLast_concat
        rw [List.foldl_cons, back]
        exact ih h
    | normal name =>
      have on : FileTree.step (start ++ down) (.normal name) = start ++ (down ++ [name]) :=
        List.append_assoc ..
      rw [List.foldl_cons, on]
      refine ih ?_
      rw [List.length_append]
      exact h

/-- Components that lead out of a place lead out of any other to the same place. -/
theorem foldl_step_eq_of_not_staysInside {cs : List Component} {a b : String}
    {down : List String} (h : staysInside down.length cs = false) :
    cs.foldl FileTree.step (a :: down) = cs.foldl FileTree.step (b :: down) := by
  induction cs generalizing down with
  | nil => cases h
  | cons c cs ih =>
    cases c with
    | root => rfl
    | current => exact ih h
    | parent =>
      rcases List.eq_nil_or_concat' down with rfl | ⟨front, last, rfl⟩
      · rfl
      · rw [List.length_append] at h
        have back (x : String) : FileTree.step (x :: (front ++ [last])) .parent = x :: front := by
          show ((x :: front) ++ [last]).dropLast = x :: front
          exact List.dropLast_concat
        rw [List.foldl_cons, List.foldl_cons, back, back]
        exact ih h
    | normal name =>
      have deeper : staysInside (down ++ [name]).length cs = false := by
        rw [List.length_append]
        exact h
      rw [List.foldl_cons, List.foldl_cons]
      exact ih deeper

theorem isConfined_iff (path : String) :
    isConfined path = true ↔ ∀ start, start <+: FileTree.follow start path := by
  constructor
  · intro h start
    have inside : start <+: (components path).foldl FileTree.step (start ++ []) :=
      isPrefix_foldl_step h
    rw [List.append_nil] at inside
    exact inside
  · intro h
    by_contra out
    have same : FileTree.follow ["a"] path = FileTree.follow ["b"] path :=
      foldl_step_eq_of_not_staysInside (Bool.eq_false_iff.mpr out)
    -- No place is below two different ones of the same length.
    have a := h ["a"]
    rw [same] at a
    have eq := (List.prefix_of_prefix_length_le a (h ["b"]) (Nat.le_refl _)).eq_of_length rfl
    exact absurd eq (by decide)

end Path

end Cratewright
