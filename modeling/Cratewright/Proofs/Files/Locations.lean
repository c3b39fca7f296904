/-
Locations that paths denote.

A path denotes a location, whatever stands on the way: the names that lead there from the
root, or a number of directories to leave and the names that lead down from then on. Each
location has one shortest path, its text, and the normal form of a path is the text of the
location that it denotes:

* `Path.follow_eq_placeFrom`, `Path.Location.eq_of_placeFrom_eq` — a path leads to its location
  from wherever it starts, and no other location is led to from everywhere;
* `Path.normalize_eq_text` — the normal form is the text of the location;
* `Path.location_text` — the text of a location denotes it;
* `Path.isNormal_text` — what the text of a location looks like;
* `Path.normalize_canonical` — normal forms are canonical.
-/
import Mathlib.Data.List.Basic
import Cratewright.Proofs.Files.Places

namespace Cratewright.Path

/-! ### Locations -/

/-- Where a path leads to, as far as the path alone tells. -/
inductive Location where
  /-- The names that lead there from the root. -/
  | rooted (names : List String)
  /-- The number of directories to leave, and the names that lead down from then on. -/
  | relative (climbs : Nat) (names : List String)
deriving DecidableEq

namespace Location

def names : Location → List String
  | rooted names => names
  | relative _ names => names

/-- The location that a step behind it leads to. A double dot takes back the last name; it is
a further directory to leave where there is none, and nothing is above the root. -/
def step : Location → Component → Location
  | _, .root => rooted []
  | l, .current => l
  | rooted names, .parent => rooted names.dropLast
  | relative climbs names, .parent =>
    if names = [] then relative (climbs + 1) [] else relative climbs names.dropLast
  | rooted names, .normal name => rooted (names ++ [name])
  | relative climbs names, .normal name => relative climbs (names ++ [name])

/-- The components of the shortest path that leads there. -/
def components : Location → List Component
  | rooted names => .root :: names.map .normal
  | relative climbs names => List.replicate climbs .parent ++ names.map .normal

/-- The shortest path that leads there, in the letters of a path. -/
def text (l : Location) : String := if l.components = [] then "." else ofComponents l.components

/-- The place that the location is, seen from another place. -/
def placeFrom : Location → List String → List String
  | rooted names, _ => names
  | relative climbs names, start => start.take (start.length - climbs) ++ names

variable {l m : Location} {c : Component} {name : String}

theorem placeFrom_step (l : Location) (c : Component) (start : List String) :
    (l.step c).placeFrom start = FileTree.step (l.placeFrom start) c := by
  cases c with
  | root => rfl
  | current => rfl
  | normal name =>
    cases l with
    | rooted names => rfl
    | relative climbs names => exact (List.append_assoc ..).symm
  | parent =>
    cases l with
    | rooted names => rfl
    | relative climbs names =>
      show (step (relative climbs names) .parent).placeFrom start =
        (start.take (start.length - climbs) ++ names).dropLast
      rw [step]
      split
      · rename_i none
        subst none
        have above : start.take (start.length - (climbs + 1)) =
            (start.take (start.length - climbs)).dropLast := by
          rw [List.dropLast_eq_take, List.take_take, List.length_take]
          congr 1
          omega
        simp [placeFrom, above]
      · rename_i some
        rw [List.dropLast_append_of_ne_nil some]
        rfl

/-- Locations that are the same place from everywhere are the same. -/
theorem eq_of_placeFrom_eq (h : ∀ start, l.placeFrom start = m.placeFrom start) : l = m := by
  have fromRoot : ∀ k : Location, k.placeFrom [] = k.names := by
    intro k
    cases k <;> simp [placeFrom, names]
  have same : l.names = m.names := by rw [← fromRoot, ← fromRoot, h]
  have far (n : Nat) := congrArg List.length (h (List.replicate n ""))
  -- A start far enough down tells how many directories are left.
  cases l with
  | rooted ns =>
    cases m with
    | rooted ms => exact congrArg rooted same
    | relative j ms =>
      have differ := far (j + 1)
      simp only [names] at same
      simp [placeFrom, same] at differ
  | relative k ns =>
    cases m with
    | rooted ms =>
      have differ := far (k + 1)
      simp only [names] at same
      simp [placeFrom, same] at differ
    | relative j ms =>
      have differ := far (k + j)
      simp only [names] at same
      simp [placeFrom, same] at differ
      have climbs : k = j := by omega
      rw [climbs, same]

theorem mem_names_of_mem_step (h : name ∈ (l.step c).names) :
    name ∈ l.names ∨ c = .normal name := by
  cases c with
  | root => cases h
  | current => exact .inl h
  | parent =>
    cases l with
    | rooted names => exact .inl (List.dropLast_subset _ h)
    | relative climbs names =>
      rw [step] at h
      split at h
      · cases h
      · exact .inl (List.dropLast_subset _ h)
  | normal last =>
    have new : name ∈ l.names ++ [last] := by cases l <;> exact h
    rcases List.mem_append.mp new with old | new
    · exact .inl old
    · cases List.mem_singleton.mp new
      exact .inr rfl

theorem mem_names_of_mem_foldl_step {cs : List Component}
    (h : name ∈ (cs.foldl step l).names) : name ∈ l.names ∨ .normal name ∈ cs := by
  induction cs generalizing l with
  | nil => exact .inl h
  | cons c cs ih =>
    rcases ih h with h | h
    · rcases mem_names_of_mem_step h with h | rfl
      · exact .inl h
      · exact .inr (List.mem_cons_self ..)
    · exact .inr (List.mem_cons_of_mem c h)

/-! ### The shortest path to a location -/

theorem foldl_step_names (l : Location) (more : List String) :
    (more.map .normal).foldl step l =
      match l with
      | rooted names => rooted (names ++ more)
      | relative climbs names => relative climbs (names ++ more) := by
  induction more generalizing l with
  | nil => cases l <;> simp
  | cons name more ih =>
    rw [List.map_cons, List.foldl_cons, ih]
    cases l <;> simp [step]

theorem foldl_step_climbs (climbs more : Nat) :
    (List.replicate more Component.parent).foldl step (relative climbs []) =
      relative (climbs + more) [] := by
  induction more generalizing climbs with
  | zero => rfl
  | succ more ih =>
    show (List.replicate more Component.parent).foldl step (relative (climbs + 1) []) = _
    rw [ih]
    congr 1
    omega

/-- The components of a location lead there. -/
theorem foldl_step_components (l : Location) : l.components.foldl step (relative 0 []) = l := by
  cases l with
  | rooted names => exact foldl_step_names (rooted []) names
  | relative climbs names =>
    rw [components, List.foldl_append, foldl_step_climbs, foldl_step_names]
    simp

/-- The normal path that is being built is the shortest path to the location so far. -/
theorem climb_components (h : c ≠ .root) :
    climb l.components.reverse c = (l.step c).components.reverse := by
  cases c with
  | root => exact absurd rfl h
  | current => rfl
  | normal name => cases l <;> simp [climb, step, components]
  | parent =>
    cases l with
    | rooted names =>
      rcases List.eq_nil_or_concat' names with rfl | ⟨front, last, rfl⟩
      · rfl
      · simp [climb, step, components]
    | relative climbs names =>
      rcases List.eq_nil_or_concat' names with rfl | ⟨front, last, rfl⟩
      · -- Above the start there are only double dots.
        have only (n : Nat) : (relative n []).components.reverse = List.replicate n .parent := by
          simp [components]
        show climb _ .parent = (relative (climbs + 1) []).components.reverse
        rw [only, only]
        cases climbs <;> rfl
      · simp [climb, step, components]

theorem foldl_climb_components {cs : List Component} (h : .root ∉ cs) :
    cs.foldl climb l.components.reverse = (cs.foldl step l).components.reverse := by
  induction cs generalizing l with
  | nil => rfl
  | cons c cs ih =>
    rw [List.mem_cons, not_or] at h
    rw [List.foldl_cons, List.foldl_cons, climb_components (Ne.symm h.1), ih h.2]

end Location

/-! ### The location of a path -/

/-- The location that a path denotes. -/
def location (path : String) : Location :=
  (components path).foldl Location.step (.relative 0 [])

/-- A path leads to its location. -/
theorem follow_eq_placeFrom (start : List String) (path : String) :
    FileTree.follow start path = (location path).placeFrom start := by
  have run (l : Location) (cs : List Component) :
      cs.foldl FileTree.step (l.placeFrom start) = (cs.foldl Location.step l).placeFrom start := by
    induction cs generalizing l with
    | nil => rfl
    | cons c cs ih => rw [List.foldl_cons, List.foldl_cons, ← Location.placeFrom_step, ih]
  have here : (Location.relative 0 []).placeFrom start = start := by simp [Location.placeFrom]
  rw [FileTree.follow, location, ← run, here]

theorem location_eq_iff {p q : String} :
    location p = location q ↔ ∀ start, FileTree.follow start p = FileTree.follow start q := by
  simp only [follow_eq_placeFrom]
  exact ⟨fun h start => by rw [h], Location.eq_of_placeFrom_eq⟩

/-- A component is at the start of the path, or it is what stands between two slashes. The
start is a dot only if it is a step. -/
theorem components_eq (path : String) : ∃ start, components path = start ++ inner path.toList ∧
    ((isAbsolute path = true ∧ start = [.root]) ∨
      (isAbsolute path = false ∧ (start = [] ∨ start = [.current] ∧ .current ∈ steps path))) := by
  have read (s : List Char) : ∃ start, (split s).1 ++ inner (split s).2 = start ++ inner s ∧
      (((s.head? == some '/') = true ∧ start = [.root]) ∨ ((s.head? == some '/') = false ∧
        (start = [] ∨ start = [.current] ∧ ['.'] ∈ Text.splitAt '/' s))) := by
    rw [split.eq_def]
    split
    · exact ⟨[.root], by rw [inner_slash], .inl ⟨rfl, rfl⟩⟩
    · exact ⟨[.current], rfl, .inr ⟨rfl, .inr ⟨rfl, List.mem_singleton_self _⟩⟩⟩
    · rename_i rest
      have piece : ['.'] ∈ Text.splitAt '/' (['.'] ++ '/' :: rest) := by
        rw [Text.splitAt_append_cons]
        exact List.mem_cons_self ..
      exact ⟨[.current], by rw [inner_dot, inner_slash], .inr ⟨rfl, .inr ⟨rfl, piece⟩⟩⟩
    · rename_i absolute _ _
      refine ⟨[], rfl, .inr ⟨?_, .inl rfl⟩⟩
      rw [beq_eq_false_iff_ne]
      intro head
      obtain ⟨rest, h⟩ := List.head?_eq_some_iff.mp head
      exact absolute rest h
  obtain ⟨start, parts, h⟩ := read path.toList
  refine ⟨start, parts, h.imp id (And.imp_right (Or.imp_right (And.imp_right fun piece => ?_)))⟩
  exact List.mem_append_right _
    (List.mem_map.mpr ⟨['.'], List.mem_filter.mpr ⟨piece, rfl⟩, rfl⟩)

theorem component?_eq_some {s : List Char} {c : Component} (h : component? s = some c) :
    s ≠ [] ∧ (c = .parent ∨ c = .normal (String.ofList s)) := by
  rw [component?] at h
  split at h
  · cases h
  · rename_i full
    refine ⟨fun none => full (.inl none), ?_⟩
    split at h <;> cases h
    · exact .inl rfl
    · exact .inr rfl

theorem root_not_mem_inner (path : List Char) : .root ∉ inner path := by
  intro h
  obtain ⟨s, -, found⟩ := List.mem_filterMap.mp h
  rcases (component?_eq_some found).2 with h | h <;> cases h

/-- The normal form of a path is the shortest path to where it leads. -/
theorem normalize_eq_text (path : String) : normalize path = (location path).text := by
  have run : (components path).foldl climb [] = (location path).components.reverse := by
    obtain ⟨start, parts, h⟩ := components_eq path
    rw [location, parts, List.foldl_append, List.foldl_append,
      ← Location.foldl_climb_components (root_not_mem_inner _)]
    rcases h with ⟨-, rfl⟩ | ⟨-, rfl | ⟨rfl, -⟩⟩ <;> rfl
  rw [normalize, run, Location.text]
  cases shortest : (location path).components with
  | nil => rfl
  | cons c cs =>
    obtain ⟨last, front, h⟩ := List.exists_cons_of_ne_nil
      (List.reverse_ne_nil_iff.mpr (List.cons_ne_nil c cs))
    rw [h, if_neg (List.cons_ne_nil c cs)]
    show ofComponents (last :: front).reverse = _
    rw [← h, List.reverse_reverse]

/-! ### Names of entries -/

/-- What an entry of a directory can be called. -/
def IsEntry (name : String) : Prop :=
  '/' ∉ name.toList ∧ component? name.toList = some (.normal name)

/-- The names of a location are entries, and are spelled out in the path. -/
theorem isEntry_of_mem_names {path name : String} (h : name ∈ (location path).names) :
    IsEntry name ∧ ∀ c ∈ name.toList, c ∈ path.toList := by
  rcases Location.mem_names_of_mem_foldl_step h with h | h
  · cases h
  obtain ⟨start, parts, initial⟩ := components_eq path
  rw [parts, List.mem_append] at h
  rcases h with h | h
  · rcases initial with ⟨-, rfl⟩ | ⟨-, rfl | ⟨rfl, -⟩⟩ <;> simp at h
  obtain ⟨s, mem, found⟩ := List.mem_filterMap.mp h
  have spelled : name.toList = s := by
    rcases (component?_eq_some found).2 with h | h
    · cases h
    · rw [Component.normal.inj h, String.toList_ofList]
  refine ⟨⟨?_, spelled ▸ found⟩, fun c hc => ?_⟩
  · rw [spelled]
    exact Text.not_mem_of_mem_splitAt mem
  · exact Text.mem_of_mem_splitAt mem (spelled ▸ hc)

/-! ### Reading a normal path -/

/-- The steps that stand between the slashes of a path. -/
def innerSteps (path : List Char) : List Component :=
  ((Text.splitAt '/' path).filter (! ·.isEmpty)).map fun s => (component? s).getD .current

theorem innerSteps_append_cons (path rest : List Char) :
    innerSteps (path ++ '/' :: rest) = innerSteps path ++ innerSteps rest := by
  rw [innerSteps, Text.splitAt_append_cons, List.filter_append, List.map_append]
  rfl

theorem steps_eq (path : String) :
    steps path = (if isAbsolute path then [.root] else []) ++ innerSteps path.toList := rfl

theorem steps_join {base path : String} (relative : isAbsolute path = false) :
    steps (join base path) = steps base ++ steps path := by
  by_cases ne : base = ""
  · subst ne
    rw [join, if_neg (by rw [relative]; decide)]
    exact congrArg steps String.empty_append
  · obtain ⟨front, joined, h⟩ := FileTree.toList_join relative ne
    -- A slash that the base ends in is the one that the path is joined with.
    have inner : innerSteps base.toList = innerSteps front := by
      rcases h with h | h
      · rw [h]
      · rw [h, innerSteps_append_cons]
        exact List.append_nil _
    rw [steps_eq, FileTree.isAbsolute_join relative ne, joined, innerSteps_append_cons, ← inner,
      ← List.append_assoc, ← steps_eq, steps_eq path, relative]
    rfl

/-- Without dots, all the steps of a path are components. -/
theorem components_eq_steps {path : String} (h : .current ∉ steps path) :
    components path = steps path := by
  -- The induction is over any pieces: those of a path are not the pieces of a shorter one.
  have pieces (ps : List (List Char))
      (h : .current ∉ (ps.filter (! ·.isEmpty)).map fun s => (component? s).getD .current) :
      ps.filterMap component? =
        (ps.filter (! ·.isEmpty)).map fun s => (component? s).getD .current := by
    induction ps with
    | nil => rfl
    | cons s ps ih =>
      cases s with
      | nil => exact ih h
      | cons c s =>
        have full : (c :: s) :: ps.filter (! ·.isEmpty) =
            ((c :: s) :: ps).filter (! ·.isEmpty) := rfl
        rw [← full, List.map_cons, List.mem_cons, not_or] at h
        rw [← full, List.map_cons, ← ih h.2]
        cases found : component? (c :: s) with
        | none => exact absurd (by rw [found]; rfl) h.1
        | some d => rw [List.filterMap_cons_some found]; rfl
  have inside : inner path.toList = innerSteps path.toList :=
    pieces _ fun mem => h (List.mem_append_right _ mem)
  obtain ⟨start, parts, initial⟩ := components_eq path
  rw [parts, inside, steps_eq]
  rcases initial with ⟨absolute, rfl⟩ | ⟨relative, rfl | ⟨-, dot⟩⟩
  · rw [absolute]
    rfl
  · rw [relative]
    rfl
  · exact absurd dot h

theorem steps_of_isEntry {name : String} (h : IsEntry name) :
    isAbsolute name = false ∧ steps name = [.normal name] := by
  have relative : isAbsolute name = false := by
    rw [isAbsolute, beq_eq_false_iff_ne]
    exact fun head => h.1 (List.mem_of_mem_head? head)
  have full : name.toList.isEmpty = false := by
    simpa using (component?_eq_some h.2).1
  refine ⟨relative, ?_⟩
  rw [steps_eq, relative, innerSteps, Text.splitAt_of_not_mem h.1]
  simp [full, h.2]

/-- Components that are not absolute are the steps of the path that is made of them. -/
theorem steps_foldl_join {cs : List Component} (base : String)
    (h : ∀ c ∈ cs, isAbsolute c.text = false ∧ steps c.text = [c]) :
    steps (cs.foldl (fun p c => join p c.text) base) = steps base ++ cs := by
  induction cs generalizing base with
  | nil => exact (List.append_nil _).symm
  | cons c cs ih =>
    have first := h c (List.mem_cons_self ..)
    rw [List.foldl_cons, ih _ fun d hd => h d (List.mem_cons_of_mem c hd), steps_join first.1,
      first.2, List.append_assoc]
    rfl

theorem steps_text {l : Location} (entries : ∀ name ∈ l.names, IsEntry name)
    (h : l.components ≠ []) : steps l.text = l.components := by
  have names : ∀ c ∈ l.names.map Component.normal,
      isAbsolute c.text = false ∧ steps c.text = [c] := by
    intro c hc
    obtain ⟨name, mem, rfl⟩ := List.mem_map.mp hc
    exact steps_of_isEntry (entries name mem)
  rw [Location.text, if_neg h]
  cases l with
  | rooted ns => exact steps_foldl_join "/" names
  | relative climbs ns =>
    refine steps_foldl_join "" fun c hc => ?_
    rcases List.mem_append.mp hc with hc | hc
    · rw [List.eq_of_mem_replicate hc]
      exact ⟨by decide, by decide⟩
    · exact names c hc

/-- A path that cannot be made simpler: a single dot, or names behind the root or behind
double dots. -/
def IsNormal (path : String) : Prop :=
  path = "." ∨ components path = steps path ∧
    ((∃ names : List String, steps path = .root :: names.map .normal) ∨
      ∃ (climbs : Nat) (names : List String),
        steps path = List.replicate climbs .parent ++ names.map .normal)

theorem current_not_mem_components (l : Location) : .current ∉ l.components := by
  cases l <;> simp [Location.components]

theorem components_text {l : Location} (entries : ∀ name ∈ l.names, IsEntry name)
    (h : l.components ≠ []) : components l.text = l.components := by
  have steps := steps_text entries h
  rw [components_eq_steps (steps ▸ current_not_mem_components l), steps]

theorem isNormal_text {l : Location} (entries : ∀ name ∈ l.names, IsEntry name) :
    IsNormal l.text := by
  by_cases h : l.components = []
  · exact .inl (if_pos h)
  · right
    rw [steps_text entries h, components_text entries h]
    cases l with
    | rooted names => exact ⟨rfl, .inl ⟨names, rfl⟩⟩
    | relative climbs names => exact ⟨rfl, .inr ⟨climbs, names, rfl⟩⟩

/-- The text of a location denotes it. -/
theorem location_text {l : Location} (entries : ∀ name ∈ l.names, IsEntry name) :
    location l.text = l := by
  by_cases h : l.components = []
  · have here := Location.foldl_step_components l
    rw [Location.text, if_pos h, ← here, h]
    decide
  · rw [location, components_text entries h, Location.foldl_step_components]

/-! ### Characters of a normal path -/

theorem mem_join {c : Char} {base path : String} (h : c ∈ (join base path).toList) :
    c ∈ base.toList ∨ c ∈ path.toList ∨ c = '/' := by
  rw [join] at h
  split at h
  · exact .inr (.inl h)
  · split at h
    · rw [String.toList_append, List.mem_append] at h
      exact h.imp id .inl
    · rw [String.toList_append, String.toList_append, List.mem_append, List.mem_append] at h
      rcases h with (h | h) | h
      · exact .inl h
      · exact .inr (.inr (List.mem_singleton.mp h))
      · exact .inr (.inl h)

theorem mem_foldl_join {c : Char} {cs : List Component} {base : String}
    (h : c ∈ (cs.foldl (fun p d => join p d.text) base).toList) :
    c ∈ base.toList ∨ c = '/' ∨ ∃ d ∈ cs, c ∈ d.text.toList := by
  induction cs generalizing base with
  | nil => exact .inl h
  | cons d cs ih =>
    rcases ih h with h | h | ⟨e, mem, h⟩
    · rcases mem_join h with h | h | h
      · exact .inl h
      · exact .inr (.inr ⟨d, List.mem_cons_self .., h⟩)
      · exact .inr (.inl h)
    · exact .inr (.inl h)
    · exact .inr (.inr ⟨e, List.mem_cons_of_mem d mem, h⟩)

/-- Besides those of its names, the text of a location has slashes and dots. -/
theorem Location.mem_text {c : Char} {l : Location} (h : c ∈ l.text.toList) :
    c = '/' ∨ c = '.' ∨ ∃ name ∈ l.names, c ∈ name.toList := by
  rw [text] at h
  split at h
  · exact .inr (.inl (List.mem_singleton.mp h))
  · rcases mem_foldl_join h with h | h | ⟨d, mem, h⟩
    · cases h
    · exact .inl h
    · have kinds : d = .root ∨ d = .parent ∨ ∃ name ∈ l.names, .normal name = d := by
        cases l with
        | rooted names =>
          exact (List.mem_cons.mp mem).imp id fun mem => .inr (List.mem_map.mp mem)
        | relative climbs names =>
          exact .inr ((List.mem_append.mp mem).imp List.eq_of_mem_replicate List.mem_map.mp)
      rcases kinds with rfl | rfl | ⟨name, known, rfl⟩
      · exact .inl (List.mem_singleton.mp h)
      · right; left
        simpa [Component.text] using h
      · exact .inr (.inr ⟨name, known, h⟩)

/-! ### Normal forms -/

theorem location_normalize (path : String) : location (normalize path) = location path := by
  rw [normalize_eq_text, location_text fun name h => (isEntry_of_mem_names h).1]

theorem normalize_eq_iff {p q : String} :
    normalize p = normalize q ↔ location p = location q := by
  constructor
  · intro h
    rw [← location_normalize p, h, location_normalize]
  · intro h
    rw [normalize_eq_text, normalize_eq_text, h]

theorem location_join_normalize (p q : String) :
    location (join (normalize p) q) = location (join p q) := by
  rw [location_eq_iff]
  intro start
  rw [FileTree.follow_join, FileTree.follow_join,
    location_eq_iff.mp (location_normalize p) start]

/-- Normal forms are canonical: two paths have the same one, as a text or component by
component, just if they denote the same location, that is, if they lead to the same place from
everywhere; a normal form is one of itself, has no dots and no double dots but in front, and
stands for the path also where the path is continued. -/
theorem normalize_canonical :
    (∀ p q, (normalize p = normalize q ↔ location p = location q) ∧
      (components (normalize p) = components (normalize q) ↔ location p = location q)) ∧
    (∀ p q, location p = location q ↔
      ∀ start, FileTree.follow start p = FileTree.follow start q) ∧
    (∀ p, normalize (normalize p) = normalize p) ∧
    (∀ p, IsNormal (normalize p)) ∧
    ∀ p q, normalize (join p q) = normalize (join (normalize p) q) := by
  refine ⟨fun p q => ⟨normalize_eq_iff, ?_⟩, fun p q => location_eq_iff, fun p => ?_,
    fun p => ?_, fun p q => ?_⟩
  · constructor
    · intro h
      rw [← location_normalize p, ← location_normalize q, location, location, h]
    · intro h
      rw [normalize_eq_iff.mpr h]
  · exact normalize_eq_iff.mpr (location_normalize p)
  · rw [normalize_eq_text]
    exact isNormal_text fun name h => (isEntry_of_mem_names h).1
  · exact normalize_eq_iff.mpr (location_join_normalize p q).symm

example : normalize "../a/./b/../..//c" = "../c" := by decide

end Cratewright.Path
