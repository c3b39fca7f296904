/-
Directories that are made.

If no file stands at any of the places that a path comes through, the directories that are
missing there can be made, and then the path leads to a directory:

* `FileTree.walk_of_passes`, `FileTree.walk_of_not_passes` — a walk succeeds if all directories
  are there, and otherwise something is missing;
* `FileTree.exists_makeUnlessDirectory` — what is made in a directory that is there;
* `FileTree.exists_makeDirectories`, `FileTree.exists_ensureDirectory` — all the directories of
  a path.
-/
import Cratewright.Proofs.Files.Trees

namespace Cratewright

namespace FileTree

variable {t u : FileTree} {place start : List String} {base path : String}

/-! ### Room for directories -/

/-- All places along components are directories. -/
abbrev Passes (t : FileTree) (place : List String) (cs : List Path.Component) : Prop :=
  Along (fun p => t.node? p = some .directory) place cs

/-- No place along components is a file. -/
abbrev Clear (t : FileTree) (place : List String) (cs : List Path.Component) : Prop :=
  Along (fun p => t.file? p = none) place cs

section Walks

variable {cs : List Path.Component}

theorem walk_of_passes (passes : t.Passes place cs) (short : ∀ c ∈ cs, checkName c = .ok ()) :
    t.walk place cs = .ok (cs.foldl step place) := by
  induction cs generalizing place with
  | nil => rfl
  | cons c cs ih =>
    rw [walk, enter_eq_ok_iff.mpr passes.1, short c (List.mem_cons_self ..), List.foldl_cons,
      ← ih passes.2 fun d hd => short d (List.mem_cons_of_mem c hd)]
    rfl

/-- Where nothing is in the way, all that a walk can fail for is that something is missing. -/
theorem walk_of_not_passes (clear : t.Clear place cs) (short : ∀ c ∈ cs, checkName c = .ok ())
    (missing : ¬ t.Passes place cs) : (t.walk place cs >>= t.enter) = .error .absent := by
  have absent {place : List String} (clear : t.file? place = none)
      (missing : t.node? place ≠ some .directory) : t.enter place = .error .absent := by
    rw [file?] at clear
    rw [enter]
    cases node : t.node? place with
    | none => rfl
    | some n =>
      cases n with
      | directory => exact absurd node missing
      | file c =>
        rw [node] at clear
        cases clear
  induction cs generalizing place with
  | nil => exact absent clear missing
  | cons c cs ih =>
    rw [walk]
    by_cases here : t.node? place = some .directory
    · rw [enter_eq_ok_iff.mpr here, short c (List.mem_cons_self ..)]
      exact ih clear.2 (fun d hd => short d (List.mem_cons_of_mem c hd)) fun h =>
        missing ⟨here, h⟩
    · rw [absent clear.1 here]
      rfl

theorem walk_append (t : FileTree) (place : List String) (cs ds : List Path.Component) :
    t.walk place (cs ++ ds) = t.walk place cs >>= fun p => t.walk p ds := by
  induction cs generalizing place with
  | nil => rfl
  | cons c cs ih => simp only [List.cons_append, walk, ih, bind_assoc]

/-- In a directory that is there, a file is put where its path leads, unless a directory stands
there. -/
theorem write_of_passes {c : Path.Component} (there : t.directory t.current base = .ok start)
    (checked : checkPath .invalidPath path = .ok ()) (parts : Path.components path = cs ++ [c])
    (short : ∀ d ∈ Path.components path, checkName d = .ok ()) (passes : t.Passes start cs)
    (free : t.node? (follow start path) ≠ some .directory) (contents : FileContents) :
    t.write base path contents = .ok (t.put (follow start path) (.file contents)) := by
  rw [parts] at short
  have front := walk_of_passes passes fun d hd => short d (List.mem_append_left _ hd)
  have reached : t.walk start (Path.components path) = .ok (follow start path) := by
    rw [follow, parts, walk_append, front]
    show t.walk (cs.foldl step start) [c] = _
    rw [walk, enter_eq_ok_iff.mpr passes.last,
      short c (List.mem_append_right _ (List.mem_singleton_self c)), List.foldl_append]
    rfl
  have found : t.place base path = .ok (follow start path) := by
    rw [FileTree.place, there, checked]
    exact reached
  simp only [FileTree.write, found, bind, Except.bind]
  rfl

end Walks

/-- Nothing is in the way of the directories of a path, which is none that is refused. -/
structure Makeable (t : FileTree) (start : List String) (path : String) : Prop where
  checked : checkPath .holdsNull path = .ok ()
  short : ∀ c ∈ Path.components path, checkName c = .ok ()
  clear : t.Clear start (Path.components path)

theorem directory_of_passes (h : t.Makeable start path)
    (passes : t.Passes start (Path.components path)) :
    t.directory start path = .ok (follow start path) := by
  rw [directory, h.checked, walk_of_passes passes h.short]
  show (t.enter _ >>= _) = _
  rw [enter_eq_ok_iff.mpr passes.last]
  rfl

theorem directory_of_not_passes (h : t.Makeable start path)
    (missing : ¬ t.Passes start (Path.components path)) :
    t.directory start path = .error .absent := by
  have walked := walk_of_not_passes h.clear h.short missing
  rw [directory, h.checked]
  show (t.walk start (Path.components path) >>= fun place => t.enter place >>= fun _ => pure place)
    = .error .absent
  cases hw : t.walk start (Path.components path) with
  | error fault =>
    rw [hw] at walked
    cases walked
    rfl
  | ok place =>
    rw [hw] at walked
    exact congrArg (· >>= fun _ => pure place) walked

/-- A start of a path is no more refused than the path. -/
theorem checkPath_of_isPrefix {f g : FileFault} {above : String}
    (h : checkPath f path = .ok ()) (sub : above.toList <+: path.toList) (ne : above ≠ "") :
    checkPath g above = .ok () := by
  obtain ⟨rest, text⟩ := sub
  have whole : path = above ++ String.ofList rest := by
    refine String.toList_inj.mp ?_
    rw [String.toList_append, String.toList_ofList, text]
  rw [checkPath] at h ⊢
  split at h
  · cases h
  rename_i noNull
  split at h
  · cases h
  split at h
  · cases h
  rename_i short
  rw [if_neg, if_neg, if_neg]
  · rw [whole, String.utf8ByteSize_append] at short
    omega
  · simpa using ne
  · intro null
    refine noNull ?_
    rw [← text]
    simp only [List.contains_eq_mem, decide_eq_true_eq, List.mem_append] at null ⊢
    exact .inl null

theorem Makeable.of_isPrefix {above : String} (h : t.Makeable start path) (ne : above ≠ "")
    (text : above.toList <+: path.toList)
    (components : Path.components above <+: Path.components path) : t.Makeable start above where
  checked := checkPath_of_isPrefix h.checked text ne
  short c hc := h.short c (components.subset hc)
  clear := along_iff.mpr fun ds hd => along_iff.mp h.clear ds (hd.trans components)

theorem Adds.makeable {p : List String → Prop} (h : Adds p t u) (m : t.Makeable start path) :
    u.Makeable start path :=
  ⟨m.checked, m.short, m.clear.mono fun place clear => (h.file? place).trans clear⟩

theorem Adds.passes {p : List String → Prop} (h : Adds p t u) {cs : List Path.Component}
    (passes : t.Passes place cs) : u.Passes place cs :=
  passes.mono fun _ => h.directory

section Making

variable (tree : t.IsTree) (there : t.directory t.current base = .ok start)
  (makeable : t.Makeable start path)

include there makeable in
theorem checkDirectory_of_passes (passes : t.Passes start (Path.components path)) :
    (FileAccess.checkDirectory base path : StateM FileTree _) t = (.ok (), t) := by
  show ((t.directory t.current base >>= fun place =>
    t.directory place path >>= fun _ => pure ()), t) = _
  rw [there]
  show ((t.directory start path >>= fun _ => pure ()), t) = _
  rw [directory_of_passes makeable passes]
  rfl

include makeable in
theorem short_steps : ∀ c ∈ Path.steps path, checkName c = .ok () := by
  intro c hc
  by_cases dot : c = .current
  · rw [dot]
    rfl
  · have mem : c ∈ (Path.steps path).filter (· ≠ .current) :=
      List.mem_filter.mpr ⟨hc, decide_eq_true dot⟩
    rw [Path.filter_steps] at mem
    exact makeable.short c (List.mem_filter.mp mem).1

/-- What making a directory comes to if the one that it goes into is there. -/
def makeEntry (t : FileTree) (above : List String) : Path.Component → Except FileFault FileTree
  | .normal name =>
    if (t.node? (above ++ [name])).isSome then .error .occupied
    else .ok (t.put (above ++ [name]) .directory)
  | _ => .error .occupied

variable {front : List Path.Component} {c : Path.Component}
  (steps : Path.steps path = front ++ [c])

include there makeable steps in
theorem make_eq : t.make base path =
    t.walk start front >>= fun above => t.enter above >>= fun _ => t.makeEntry above c := by
  have short := short_steps makeable
  rw [steps] at short
  simp only [FileTree.make, there, makeable.checked, steps, List.dropLast_concat,
    List.getLast?_concat]
  show (t.walk start front >>= fun above => t.enter above >>= fun _ => _) = _
  refine congrArg _ (funext fun above => congrArg _ (funext fun _ => ?_))
  cases c with
  | normal name =>
    dsimp only
    rw [short _ (List.mem_append_right _ (List.mem_singleton_self _))]
    rfl
  | _ => rfl

include tree there makeable steps in
/-- In a directory that is there, a directory is made or there already. -/
theorem exists_makeUnlessDirectory (passes : t.Passes start front) :
    ∃ u, (makeUnlessDirectory base path : StateM FileTree _) t = (.ok (), u) ∧
      u.Passes start (Path.components path) := by
  have short := short_steps makeable
  have clear : t.Clear start (Path.steps path) := along_steps.mpr makeable.clear
  rw [steps] at short clear
  have walked := walk_of_passes passes fun d hd => short d (List.mem_append_left _ hd)
  have entered := enter_eq_ok_iff.mpr passes.last
  have made : t.make base path = t.makeEntry (front.foldl step start) c := by
    rw [make_eq there makeable steps, walked]
    show (t.enter _ >>= fun _ => _) = _
    rw [entered]
    rfl
  -- What is there already is looked at again.
  have again (occupied : t.make base path = .error .occupied)
      (last : t.node? (step (front.foldl step start) c) = some .directory) :
      ∃ u, (makeUnlessDirectory base path : StateM FileTree _) t = (.ok (), u) ∧
        u.Passes start (Path.components path) := by
    have all : t.Passes start (Path.components path) := by
      rw [Passes, ← along_steps, steps]
      exact along_concat.mpr ⟨passes, last⟩
    have tried : (FileAccess.makeDirectory base path : StateM FileTree _) t =
        (.error .occupied, t) := congrArg t.settle occupied
    refine ⟨t, ?_, all⟩
    rw [makeUnlessDirectory, bind_apply, tried]
    dsimp only
    rw [bind_apply, checkDirectory_of_passes there makeable all]
    rfl
  cases c with
  | root => exact again made rfl
  | current => exact again made passes.last
  | parent => exact again made (tree.dropLast passes.last)
  | normal name =>
    cases node : t.node? (front.foldl step start ++ [name]) with
    | some n =>
      cases n with
      | directory => exact again (by rw [made, makeEntry, node]; rfl) node
      | file c =>
        have none := (along_concat.mp clear).2
        rw [step, file?, node] at none
        cases none
    | none =>
      have done : t.make base path =
          .ok (t.put (front.foldl step start ++ [name]) .directory) := by
        rw [made, makeEntry, node]
        rfl
      have tried : (FileAccess.makeDirectory base path : StateM FileTree _) t =
          (.ok (), t.put (front.foldl step start ++ [name]) .directory) :=
        congrArg t.settle done
      have adds := ((builds_makeDirectory base path).of_eq tried).1
      refine ⟨t.put (front.foldl step start ++ [name]) .directory, ?_, ?_⟩
      · rw [makeUnlessDirectory, bind_apply, tried]
        rfl
      · rw [Passes, ← along_steps, steps]
        refine along_concat.mpr ⟨adds.passes passes, ?_⟩
        exact (node?_put (List.concat_ne_nil _ _) _ _).trans (if_pos rfl)

include there makeable steps in
/-- In a directory that is missing, no directory is made. -/
theorem makeUnlessDirectory_of_not_passes (missing : ¬ t.Passes start front) :
    (makeUnlessDirectory base path : StateM FileTree _) t = (.error .absent, t) := by
  have short := short_steps makeable
  have clear : t.Clear start (Path.steps path) := along_steps.mpr makeable.clear
  rw [steps] at short clear
  have walked := walk_of_not_passes (along_concat.mp clear).1
    (fun d hd => short d (List.mem_append_left _ hd)) missing
  have made : t.make base path = .error .absent := by
    rw [make_eq there makeable steps]
    cases hw : t.walk start front with
    | error fault =>
      rw [hw] at walked
      cases walked
      rfl
    | ok above =>
      rw [hw] at walked
      have entered : t.enter above = .error .absent := walked
      show (t.enter above >>= fun _ => _) = _
      rw [entered]
      rfl
  have tried : (FileAccess.makeDirectory base path : StateM FileTree _) t = (.error .absent, t) :=
    congrArg t.settle made
  rw [makeUnlessDirectory, bind_apply, tried]
  rfl

/-- The last step of a path goes into what is above it. -/
theorem filter_front (meant : c ≠ .current) (split : Path.steps path = front ++ [c]) :
    (∃ above, Path.parent? path = some above ∧
      front.filter (· ≠ .current) = (Path.components above).filter (· ≠ .current)) ∨
    Path.parent? path = none ∧ front.filter (· ≠ .current) = [] := by
  have single {d : Path.Component} (ne : d ≠ .current) :
      [d].filter (· ≠ .current) = [d] := by
    rw [List.filter_cons, if_pos (decide_eq_true ne), List.filter_nil]
  have last := Path.filter_steps path
  rw [split, List.filter_append, single meant] at last
  cases found : Path.parent? path with
  | none =>
    refine .inr ⟨rfl, ?_⟩
    rcases Path.components_of_parent?_eq_none found with parts | parts
    · rw [parts] at last
      exact absurd last (List.concat_ne_nil _ _)
    · have root : front.filter (· ≠ .current) ++ [c] = [] ++ [.root] := by
        rw [last, parts]
        rfl
      exact (List.append_inj' root rfl).1
  | some above =>
    refine .inl ⟨above, rfl, ?_⟩
    obtain ⟨d, parts, alone⟩ := (Path.isAbove_of_parent? found).components
    have ne : d ≠ .current := by
      intro dot
      rw [alone dot] at last
      exact absurd last (List.concat_ne_nil _ _)
    rw [parts, List.filter_append, single ne] at last
    exact (List.append_inj' last rfl).1

/-- A path leads nowhere, or its last step leads somewhere. -/
def Ends (path : String) : Prop :=
  path = "" ∨ path = "." ∨ ∃ front c, Path.steps path = front ++ [c] ∧ c ≠ .current

include tree there makeable steps in
/-- A directory is made at once if the one that it goes into is there. -/
theorem exists_makeInnermost_of_passes (ne : path ≠ "") (passes : t.Passes start front)
    (n : Nat) : ∃ u, (makeInnermost base (Path.ancestors.climbFrom n path) : StateM FileTree _) t
      = (.ok (), u) ∧ u.Passes start (Path.components path) := by
  obtain ⟨u, made, all⟩ := exists_makeUnlessDirectory tree there makeable steps passes
  obtain ⟨above, list⟩ := Path.exists_climbFrom n path
  refine ⟨u, ?_, all⟩
  rw [list, makeInnermost, if_neg (by simpa using ne), bind_apply, made]
  rfl

omit makeable in
include tree there in
/-- If nothing is in the way, a directory can be made, the ones above it first. -/
theorem exists_makeInnermost (n : Nat) : ∀ {path : String}, (Path.components path).length ≤ n →
    Ends path → (path ≠ "" → t.Makeable start path) →
      ∃ u, (makeInnermost base (Path.ancestors.climbFrom n path) : StateM FileTree _) t
        = (.ok (), u) ∧ u.Passes start (Path.components path) := by
  have begin_ : t.node? start = some .directory := (of_directory there).2
  induction n with
  | zero =>
    intro path few ends makeable
    by_cases ne : path = ""
    · exact ⟨t, by rw [ne]; rfl, by rw [ne]; exact begin_⟩
    rcases ends with h | h | ⟨front, c, steps, meant⟩
    · exact absurd h ne
    · rw [h] at few
      exact absurd few (by decide)
    · have parts := Path.filter_steps path
      rw [List.eq_nil_of_length_eq_zero (Nat.le_zero.mp few), steps, List.filter_append,
        List.filter_cons, if_pos (decide_eq_true meant)] at parts
      exact absurd parts (List.concat_ne_nil _ _)
  | succ n ih =>
    intro path few ends makeable
    by_cases ne : path = ""
    · exact ⟨t, by rw [ne]; rfl, by rw [ne]; exact begin_⟩
    rcases ends with h | h | ⟨front, c, steps, meant⟩
    · exact absurd h ne
    · have steps : Path.steps path = [] ++ [.current] := by
        rw [h]
        decide
      exact exists_makeInnermost_of_passes tree there (makeable ne) steps ne begin_ _
    have makeable := makeable ne
    by_cases passes : t.Passes start front
    · exact exists_makeInnermost_of_passes tree there makeable steps ne passes _
    rcases filter_front meant steps with ⟨above, found, same⟩ | ⟨-, nothing⟩
    · -- The directory above is missing, and is made before the directory is tried again.
      have isAbove := Path.isAbove_of_parent? found
      obtain ⟨d, parts, -⟩ := isAbove.components
      have fewer : (Path.components above).length ≤ n := by
        rw [parts, List.length_append] at few
        exact Nat.le_of_succ_le_succ few
      obtain ⟨v, made, inside⟩ := ih fewer isAbove.exists_steps fun ne =>
        makeable.of_isPrefix ne isAbove.isPrefix (parts ▸ List.prefix_append _ _)
      obtain ⟨adds, isTree⟩ :=
        (builds_makeInnermost base (Path.ancestors.climbFrom n above)).of_eq made
      have there' : v.directory v.current base = .ok start := by
        rw [adds.current]
        exact adds.keeps.directory_eq there
      have passes' : v.Passes start front := by
        rw [Passes, ← along_filter, same, along_filter]
        exact inside
      obtain ⟨u, again, all⟩ := exists_makeUnlessDirectory (isTree tree) there'
        (adds.makeable makeable) steps passes'
      have list : Path.ancestors.climbFrom (n + 1) path =
          path :: Path.ancestors.climbFrom n above := by
        rw [Path.ancestors.climbFrom, found]
      refine ⟨u, ?_, all⟩
      rw [list, makeInnermost, if_neg (by simpa using ne), bind_apply,
        makeUnlessDirectory_of_not_passes there makeable steps passes]
      dsimp only
      rw [bind_apply, made]
      exact again
    · refine absurd ?_ passes
      rw [Passes, ← along_filter, nothing]
      exact begin_

omit makeable in
include tree there in
theorem exists_makeDirectories (ends : Ends path) (makeable : path ≠ "" → t.Makeable start path) :
    ∃ u, (makeDirectories base path : StateM FileTree _) t = (.ok (), u) ∧
      u.Passes start (Path.components path) :=
  exists_makeInnermost tree there _ (Nat.le_refl _) ends makeable

end Making

/-- A directory that is missing can be made if nothing is in the way. -/
theorem exists_ensureDirectory (tree : t.IsTree) (makeable : t.Makeable t.current path)
    (ends : Ends path ∨ t.Passes t.current (Path.components path)) :
    ∃ u, (ensureDirectory path : StateM FileTree _) t = (.ok (), u) := by
  have here : t.directory t.current currentDirectory = .ok t.current := by
    have checked : checkPath .holdsNull currentDirectory = .ok () := by decide
    have parts : Path.components currentDirectory = [.current] := by decide
    have entered := enter_eq_ok_iff.mpr tree.current
    simp only [FileTree.directory, checked, parts, walk, entered]
    exact congrArg (· >>= fun _ => pure t.current) entered
  rw [ensureDirectory]
  by_cases passes : t.Passes t.current (Path.components path)
  · refine ⟨t, ?_⟩
    rw [bind_apply, checkDirectory_of_passes here makeable passes]
    rfl
  · have missing : (FileAccess.checkDirectory currentDirectory path : StateM FileTree _) t
        = (.error .absent, t) := by
      show ((t.directory t.current currentDirectory >>= fun start =>
        t.directory start path >>= fun _ => pure ()), t) = _
      rw [here]
      show ((t.directory t.current path >>= fun _ => pure ()), t) = _
      rw [directory_of_not_passes makeable passes]
      rfl
    obtain ⟨u, made, all⟩ :=
      exists_makeDirectories tree here (ends.resolve_right passes) fun _ => makeable
    have adds := ((builds_makeDirectories currentDirectory path).of_eq made).1
    have here' : u.directory u.current currentDirectory = .ok t.current := by
      rw [adds.current]
      exact adds.keeps.directory_eq here
    refine ⟨u, ?_⟩
    rw [bind_apply, missing]
    dsimp only
    rw [bind_apply, made]
    exact checkDirectory_of_passes here' (adds.makeable makeable) all

end FileTree

end Cratewright
