/-
Well-formed trees of files.

In a tree every entry stands in a directory. Operations keep it so: a directory is made, and a
file is put, only in a directory that is there. Making directories adds some at the places that
a path comes through, and does nothing else:

* `FileTree.along_iff` — the places that components come through;
* `FileTree.IsTree.make`, `FileTree.IsTree.write` — what operations leave is a tree;
* `FileTree.builds_makeDirectories`, `FileTree.builds_ensureDirectory` — the directories that
  are made.
-/
import Cratewright.Proofs.Files.Ancestors
import Cratewright.Proofs.Files.Effects

namespace Cratewright

namespace FileTree

variable {t u v : FileTree} {place start : List String} {base path : String}

/-! ### Places along a path -/

/-- Something holds of all the places that components come through. -/
def Along (p : List String → Prop) : List String → List Path.Component → Prop
  | place, [] => p place
  | place, c :: cs => p place ∧ Along p (step place c) cs

instance decidableAlong (p : List String → Prop) [DecidablePred p] :
    ∀ (place : List String) (cs : List Path.Component), Decidable (Along p place cs)
  | place, [] => inferInstanceAs (Decidable (p place))
  | place, c :: cs =>
    have := decidableAlong p (step place c) cs
    inferInstanceAs (Decidable (p place ∧ Along p (step place c) cs))

section Along

variable {p q : List String → Prop} {cs : List Path.Component}

theorem Along.mono (h : Along p place cs) (hp : ∀ place, p place → q place) :
    Along q place cs := by
  induction cs generalizing place with
  | nil => exact hp _ h
  | cons c cs ih => exact ⟨hp _ h.1, ih h.2⟩

theorem Along.here (h : Along p place cs) : p place := by
  cases cs with
  | nil => exact h
  | cons c cs => exact h.1

theorem along_concat {c : Path.Component} : Along p place (cs ++ [c]) ↔
    Along p place cs ∧ p (step (cs.foldl step place) c) := by
  induction cs generalizing place with
  | nil => rfl
  | cons d cs ih =>
    rw [List.cons_append, Along, Along, ih, List.foldl_cons, and_assoc]

/-- The places are those that the starts of the components lead to. -/
theorem along_iff : Along p place cs ↔ ∀ ds, ds <+: cs → p (ds.foldl step place) := by
  induction cs generalizing place with
  | nil =>
    refine ⟨fun h ds hd => ?_, fun h => h [] (List.prefix_refl _)⟩
    rw [List.prefix_nil.mp hd]
    exact h
  | cons c cs ih =>
    rw [Along, ih]
    constructor
    · rintro ⟨here, further⟩ ds hd
      cases ds with
      | nil => exact here
      | cons d ds =>
        obtain ⟨rfl, sub⟩ := List.cons_prefix_cons.mp hd
        exact further ds sub
    · intro h
      exact ⟨h [] List.nil_prefix, fun ds hd => h (c :: ds) (List.cons_prefix_cons.mpr ⟨rfl, hd⟩)⟩

theorem Along.last (h : Along p place cs) : p (cs.foldl step place) :=
  along_iff.mp h cs (List.prefix_refl _)

/-- A dot leads nowhere else. -/
theorem along_filter : Along p place (cs.filter (· ≠ .current)) ↔ Along p place cs := by
  induction cs generalizing place with
  | nil => rfl
  | cons c cs ih =>
    by_cases dot : c = .current
    · rw [dot, List.filter_cons_of_neg (by decide), ih, Along]
      exact ⟨fun h => ⟨h.here, h⟩, fun h => h.2⟩
    · rw [List.filter_cons, if_pos (decide_eq_true dot), Along, Along, ih]

theorem foldl_step_filter (cs : List Path.Component) (place : List String) :
    (cs.filter (· ≠ .current)).foldl step place = cs.foldl step place := by
  induction cs generalizing place with
  | nil => rfl
  | cons c cs ih =>
    by_cases dot : c = .current
    · rw [dot, List.filter_cons_of_neg (by decide), ih]
      rfl
    · rw [List.filter_cons, if_pos (decide_eq_true dot), List.foldl_cons, List.foldl_cons, ih]

end Along

/-- A path comes through a place. -/
def OnWay (start : List String) (path : String) (place : List String) : Prop :=
  ∃ ds, ds <+: Path.components path ∧ place = ds.foldl step start

theorem along_components_iff {p : List String → Prop} :
    Along p start (Path.components path) ↔ ∀ place, OnWay start path place → p place := by
  rw [along_iff]
  exact ⟨fun h _ ⟨ds, sub, here⟩ => here ▸ h ds sub, fun h ds sub => h _ ⟨ds, sub, rfl⟩⟩

/-- The steps of a path come through the same places as its components. -/
theorem along_steps {p : List String → Prop} :
    Along p start (Path.steps path) ↔ Along p start (Path.components path) := by
  rw [← along_filter, Path.filter_steps, along_filter]

/-- The steps of a path lead where its components do. -/
theorem foldl_step_steps (start : List String) (path : String) :
    (Path.steps path).foldl step start = follow start path := by
  rw [← foldl_step_filter, Path.filter_steps, foldl_step_filter, follow]

/-! ### Trees -/

/-- Every entry stands in a directory, under a name without slashes, and the current directory
is one. -/
structure IsTree (t : FileTree) : Prop where
  current : t.node? t.current = some .directory
  ne_nil : ∀ e ∈ t.nodes.entries, e.1 ≠ []
  above : ∀ e ∈ t.nodes.entries, t.node? e.1.dropLast = some .directory
  names : ∀ e ∈ t.nodes.entries, ∀ name ∈ e.1, '/' ∉ name.toList

instance (t : FileTree) : Decidable t.IsTree :=
  decidable_of_iff (t.node? t.current = some .directory ∧
    (∀ e ∈ t.nodes.entries, e.1 ≠ []) ∧
    (∀ e ∈ t.nodes.entries, t.node? e.1.dropLast = some .directory) ∧
    ∀ e ∈ t.nodes.entries, ∀ name ∈ e.1, '/' ∉ name.toList)
    ⟨fun ⟨current, ne_nil, above, names⟩ => ⟨current, ne_nil, above, names⟩,
      fun h => ⟨h.current, h.ne_nil, h.above, h.names⟩⟩

theorem IsTree.dropLast (h : t.IsTree) {n : FileNode} (hn : t.node? place = some n) :
    t.node? place.dropLast = some .directory := by
  by_cases ne : place = []
  · rw [ne]
    rfl
  · exact h.above _ ((node?_eq_some_iff ne).mp hn)

/-- Where something stands, something stands everywhere above. -/
theorem IsTree.exists_node? (h : t.IsTree) {rest : List String} {n : FileNode}
    (hn : t.node? (place ++ rest) = some n) : ∃ m, t.node? place = some m := by
  induction rest using List.reverseRecOn generalizing n with
  | nil =>
    rw [List.append_nil] at hn
    exact ⟨n, hn⟩
  | append_singleton rest name ih =>
    have above := h.dropLast hn
    rw [← List.append_assoc, List.dropLast_concat] at above
    exact ih above

theorem IsTree.slash_not_mem (h : t.IsTree) {n : FileNode} (hn : t.node? place = some n) :
    ∀ name ∈ place, '/' ∉ name.toList := by
  by_cases ne : place = []
  · rw [ne]
    exact fun _ hm => by cases hm
  · exact h.names _ ((node?_eq_some_iff ne).mp hn)

theorem mem_entries_put {n m : FileNode} {other : List String} :
    (other, m) ∈ (t.put place n).nodes.entries ↔
      if other = place then m = n else (other, m) ∈ t.nodes.entries := by
  rw [← SortedMap.find?_eq_some_iff, put, SortedMap.find?_insert]
  split
  · rw [Option.some_inj]
    exact eq_comm
  · rw [SortedMap.find?_eq_some_iff]

/-- An entry is put into a directory, and not where a directory stands. -/
theorem IsTree.put (h : t.IsTree) {name : String} (n : FileNode)
    (inside : t.node? place = some .directory) (free : t.node? (place ++ [name]) ≠ some .directory)
    (slash : '/' ∉ name.toList) : (t.put (place ++ [name]) n).IsTree := by
  have ne : place ++ [name] ≠ [] := List.concat_ne_nil _ _
  have stays {other : List String} (hd : t.node? other = some .directory) :
      (t.put (place ++ [name]) n).node? other = some .directory := by
    rw [node?_put ne, if_neg]
    · exact hd
    · rintro rfl
      exact free hd
  refine ⟨stays h.current, fun ⟨other, m⟩ hm => ?_, fun ⟨other, m⟩ hm => ?_,
    fun ⟨other, m⟩ hm => ?_⟩
  · rw [mem_entries_put] at hm
    split at hm
    · rename_i here
      exact here ▸ ne
    · exact h.ne_nil _ hm
  · rw [mem_entries_put] at hm
    split at hm
    · rename_i here
      show (t.put _ n).node? other.dropLast = _
      rw [here, List.dropLast_concat]
      exact stays inside
    · exact stays (h.above _ hm)
  · rw [mem_entries_put] at hm
    split at hm
    · rename_i here
      intro name' mem
      rcases List.mem_append.mp (here ▸ mem) with mem | mem
      · exact h.slash_not_mem inside name' mem
      · rw [List.mem_singleton.mp mem]
        exact slash
    · exact h.names _ hm

/-- A directory is made where there is nothing, in a directory that is there. -/
theorem of_make (h : t.make base path = .ok u) : ∃ above name,
    u = t.put (above ++ [name]) .directory ∧ above ++ [name] = follow (t.target base) path ∧
    t.node? above = some .directory ∧ t.node? (above ++ [name]) = none ∧ '/' ∉ name.toList := by
  obtain ⟨begin_, there, h⟩ := Except.bind_eq_ok_iff.mp h
  obtain ⟨_, _, h⟩ := Except.bind_eq_ok_iff.mp h
  obtain ⟨above, walked, h⟩ := Except.bind_eq_ok_iff.mp h
  obtain ⟨_, entered, h⟩ := Except.bind_eq_ok_iff.mp h
  split at h
  · rename_i name last
    obtain ⟨_, _, h⟩ := Except.bind_eq_ok_iff.mp h
    dsimp only at h
    split at h
    · cases h
    · rename_i free
      cases h
      rw [Bool.not_eq_true, Option.isSome_eq_false_iff, Option.isNone_iff_eq_none] at free
      obtain ⟨front, steps⟩ := List.getLast?_eq_some_iff.mp last
      have mem : .normal name ∈ (Path.steps path).filter (· ≠ .current) := by
        refine List.mem_filter.mpr ⟨?_, rfl⟩
        rw [steps]
        exact List.mem_append_right _ (List.mem_singleton_self _)
      rw [Path.filter_steps] at mem
      refine ⟨above, name, rfl, ?_, enter_eq_ok_iff.mp entered, free,
        Path.slash_not_mem (List.mem_filter.mp mem).1⟩
      rw [target, ← (of_directory there).1, ← foldl_step_steps, steps, List.foldl_append,
        follow_of_walk walked, steps, List.dropLast_concat]
      rfl
  · cases h

theorem IsTree.make (h : t.IsTree) (hm : t.make base path = .ok u) : u.IsTree := by
  obtain ⟨above, name, rfl, -, inside, free, slash⟩ := of_make hm
  exact h.put _ inside (by rw [free]; nofun) slash

/-- Where components lead to in a tree, there is a directory, or the place is in one. -/
theorem IsTree.of_walk (h : t.IsTree) {cs : List Path.Component}
    (begin_ : t.node? start = some .directory) (hw : t.walk start cs = .ok place) :
    t.node? place = some .directory ∨ ∃ above name, place = above ++ [name] ∧
      t.node? above = some .directory ∧ .normal name ∈ cs := by
  induction cs generalizing start with
  | nil =>
    cases hw
    exact .inl begin_
  | cons c cs ih =>
    rw [walk] at hw
    obtain ⟨_, entered, hw⟩ := Except.bind_eq_ok_iff.mp hw
    obtain ⟨_, _, hw⟩ := Except.bind_eq_ok_iff.mp hw
    have here := enter_eq_ok_iff.mp entered
    cases cs with
    | nil =>
      cases hw
      cases c with
      | root => exact .inl rfl
      | current => exact .inl here
      | parent => exact .inl (h.dropLast here)
      | normal name => exact .inr ⟨start, name, rfl, here, List.mem_cons_self ..⟩
    | cons d ds =>
      obtain ⟨_, next, _⟩ := Except.bind_eq_ok_iff.mp hw
      refine (ih (enter_eq_ok_iff.mp next) hw).imp_right ?_
      rintro ⟨above, name, parts, inside, mem⟩
      exact ⟨above, name, parts, inside, List.mem_cons_of_mem _ mem⟩

theorem IsTree.write (h : t.IsTree) {c : FileContents} (hw : t.write base path c = .ok u) :
    u.IsTree := by
  obtain ⟨place, hp, hw⟩ := Except.bind_eq_ok_iff.mp hw
  obtain ⟨begin_, there, hp⟩ := Except.bind_eq_ok_iff.mp hp
  obtain ⟨_, _, walked⟩ := Except.bind_eq_ok_iff.mp hp
  split at hw
  · cases hw
  · rename_i free
    cases hw
    rcases h.of_walk (of_directory there).2 walked with here | ⟨above, name, rfl, inside, mem⟩
    · exact absurd here free
    · exact h.put _ inside free (Path.slash_not_mem mem)

/-! ### Actions that add directories -/

/-- What stands at a place is what stood there, or a directory that was made where nothing
stood. -/
def Grows (made : Prop) (before after : Option FileNode) : Prop :=
  after = before ∨ before = none ∧ after = some .directory ∧ made

theorem Grows.mono {made made' : Prop} {a b : Option FileNode} (h : Grows made a b)
    (sub : made → made') : Grows made' a b :=
  h.imp_right (And.imp_right (And.imp_right sub))

theorem Grows.trans {made : Prop} {a b c : Option FileNode} (h : Grows made a b)
    (hc : Grows made b c) : Grows made a c := by
  rcases hc with same | ⟨none, directory, here⟩
  · rw [same]
    exact h
  · rcases h with same | ⟨_, some, _⟩
    · exact .inr ⟨same ▸ none, directory, here⟩
    · rw [none] at some
      cases some

/-- From one tree to the next, directories have been made at certain places, and nothing else
has changed. -/
structure Adds (p : List String → Prop) (t u : FileTree) : Prop where
  current : u.current = t.current
  node? : ∀ place, Grows (p place) (t.node? place) (u.node? place)

section Adds

variable {p q : List String → Prop}

theorem adds_refl (p : List String → Prop) (t : FileTree) : Adds p t t :=
  ⟨rfl, fun _ => .inl rfl⟩

theorem Adds.mono (h : Adds p t u) (sub : ∀ place, p place → q place) : Adds q t u :=
  ⟨h.current, fun place => (h.node? place).mono (sub place)⟩

theorem Adds.trans (h : Adds p t u) (hu : Adds p u v) : Adds p t v :=
  ⟨hu.current.trans h.current, fun place => (h.node? place).trans (hu.node? place)⟩

theorem Adds.directory (h : Adds p t u) (hd : t.node? place = some .directory) :
    u.node? place = some .directory := by
  rcases h.node? place with same | ⟨_, made, _⟩
  · rw [same]
    exact hd
  · exact made

theorem Adds.file? (h : Adds p t u) (place : List String) : u.file? place = t.file? place := by
  rw [FileTree.file?, FileTree.file?]
  rcases h.node? place with same | ⟨none, made, _⟩
  · rw [same]
  · rw [none, made]

theorem Adds.keeps (h : Adds p t u) : Keeps t u :=
  ⟨h.current, fun place _ => h.file? place, fun place some => by rwa [h.file?],
    fun _ => h.directory⟩

end Adds

/-- What is done to a tree keeps it one, and makes directories at places that depend on the
current directory alone. -/
structure Builds {α : Type} (p : List String → List String → Prop) (x : StateM FileTree α) :
    Prop where
  adds : ∀ t, Adds (p t.current) t (x t).2
  isTree : ∀ t, t.IsTree → (x t).2.IsTree

section Builds

variable {α β : Type} {p q : List String → List String → Prop}

theorem builds_pure (a : α) : Builds p (pure a : StateM FileTree α) :=
  ⟨fun t => adds_refl _ t, fun _ h => h⟩

theorem Builds.bind {x : StateM FileTree α} {f : α → StateM FileTree β} (h : Builds p x)
    (hf : ∀ a, Builds p (f a)) : Builds p (x >>= f) := by
  refine ⟨fun t => (h.adds t).trans ?_, fun t ht => (hf _).isTree _ (h.isTree t ht)⟩
  rw [← (h.adds t).current]
  exact (hf (x t).1).adds (x t).2

theorem Builds.of_eq {x : StateM FileTree α} {a : α} (h : Builds p x) (run : x t = (a, u)) :
    Adds (p t.current) t u ∧ (t.IsTree → u.IsTree) := by
  have adds := h.adds t
  have isTree := h.isTree t
  rw [run] at adds isTree
  exact ⟨adds, isTree⟩

theorem Builds.mono {x : StateM FileTree α} (h : Builds p x)
    (sub : ∀ current place, p current place → q current place) : Builds q x :=
  ⟨fun t => (h.adds t).mono (sub t.current), h.isTree⟩

theorem builds_checkDirectory (base path : String) :
    Builds p (FileAccess.checkDirectory base path : StateM FileTree _) :=
  ⟨fun t => adds_refl _ t, fun _ h => h⟩

/-- A directory is added where its path leads to. -/
theorem builds_makeDirectory (base path : String) :
    Builds (fun current place => place = follow (follow current base) path)
      (FileAccess.makeDirectory base path : StateM FileTree _) := by
  have made (t : FileTree) : ((FileAccess.makeDirectory base path : StateM FileTree _) t).2 =
      (t.settle (t.make base path)).2 := rfl
  refine ⟨fun t => ?_, fun t ht => ?_⟩
  · rw [made]
    cases h : t.make base path with
    | error fault => exact adds_refl _ t
    | ok u =>
      obtain ⟨above, name, rfl, here, -, free, -⟩ := of_make h
      refine ⟨rfl, fun other => ?_⟩
      show (t.put _ _).node? other = _ ∨ _
      rw [settle, node?_put (List.concat_ne_nil _ _)]
      split
      · rename_i same
        exact .inr ⟨same ▸ free, rfl, same.trans here⟩
      · exact .inl rfl
  · rw [made]
    cases h : t.make base path with
    | error fault => exact ht
    | ok u => exact ht.make h

theorem builds_makeUnlessDirectory (base path : String) :
    Builds (fun current place => place = follow (follow current base) path)
      (makeUnlessDirectory base path) := by
  refine (builds_makeDirectory base path).bind fun made => ?_
  split
  · exact builds_pure _
  · exact builds_pure _
  · refine (builds_checkDirectory base path).bind fun found => ?_
    split <;> exact builds_pure _

theorem builds_makeInnermost (base : String) : ∀ paths : List String,
    Builds (fun current place => ∃ path ∈ paths, place = follow (follow current base) path)
      (makeInnermost base paths)
  | [] => builds_pure _
  | path :: above => by
    have first := (builds_makeUnlessDirectory base path).mono
      (q := fun current place => ∃ p ∈ path :: above, place = follow (follow current base) p)
      fun current place here => ⟨path, List.mem_cons_self .., here⟩
    have rest := (builds_makeInnermost base above).mono
      (q := fun current place => ∃ p ∈ path :: above, place = follow (follow current base) p)
      fun current place ⟨p, hp, here⟩ => ⟨p, List.mem_cons_of_mem path hp, here⟩
    rw [makeInnermost]
    split
    · exact builds_pure _
    · refine first.bind fun made => ?_
      split
      · refine rest.bind fun result => ?_
        split
        · exact first
        · exact builds_pure _
      · exact builds_pure _

/-- Directories are added where a path comes through. -/
theorem builds_makeDirectories (base path : String) :
    Builds (fun current => OnWay (follow current base) path) (makeDirectories base path) := by
  refine (builds_makeInnermost base (Path.ancestors path)).mono fun current place => ?_
  rintro ⟨above, mem, rfl⟩
  exact ⟨_, (Path.isPrefix_of_mem_ancestors mem).1, rfl⟩

theorem builds_ensureDirectory (path : String) :
    Builds (fun current => OnWay current path) (ensureDirectory path) := by
  refine (builds_checkDirectory _ path).bind fun found => ?_
  split
  · refine Builds.bind ?_ fun made => ?_
    · exact builds_makeDirectories currentDirectory path
    · split
      · exact builds_checkDirectory _ path
      · exact builds_pure _
  · exact builds_pure _

end Builds

end FileTree

end Cratewright
