/-
What a run does.

A run first reads its inputs and selects services, which leaves the files as they are. Then it
attempts each service; what has come of the attempts is reported at the end:

* `perform_run` — a run is a selection, the attempts, and the report;
* `Selection.perform_attempt_of_error`, `Selection.attempt_spec` — an attempt writes nothing
  if no code can be generated, and otherwise the crate.
-/
import Cratewright.Proofs.Pipeline.Writing

namespace Cratewright.Pipeline

open FileTree

variable {t : FileTree}

/-! ### Reading the inputs -/

/-- An action that leaves all files as they are. -/
def Silent {α : Type} (x : ExceptT Failure (StateM FileTree) α) : Prop :=
  ∀ t, (perform x t).2 = t

section Silent

variable {α β : Type} {x : ExceptT Failure (StateM FileTree) α}

theorem Silent.bind {f : α → ExceptT Failure (StateM FileTree) β} (h : Silent x)
    (hf : ∀ a, Silent (f a)) : Silent (x >>= f) := by
  intro t
  have left := h t
  rw [perform_bind]
  generalize perform x t = result at left
  obtain ⟨_ | a, u⟩ := result
  · exact left
  · exact (hf a u).trans left

theorem silent_const (o : Except Failure α) :
    Silent (ExceptT.mk (pure o) : ExceptT Failure (StateM FileTree) α) :=
  fun _ => rfl

theorem silent_readInput (path : String) : Silent (readInput path) := by
  rw [readInput]
  split
  · exact silent_const _
  · exact Silent.bind (fun _ => rfl) fun _ => fun _ => rfl

theorem silent_readModel (path : String) : Silent (readModel path) :=
  (silent_readInput path).bind fun _ => silent_const _

theorem silent_readSettings (path : Option String) : Silent (path.mapM readSettings) := by
  cases path with
  | none => exact silent_const _
  | some path =>
    rw [Option.mapM_some, map_eq_pure_bind]
    exact ((silent_readInput path).bind fun _ => silent_const _).bind fun _ => silent_const _

theorem silent_prepare (arguments : Arguments) : Silent (prepare arguments) :=
  (silent_readModel _).bind fun _ => (silent_readSettings _).bind fun _ =>
    (silent_const _).bind fun _ => silent_const _

end Silent

theorem perform_readModel {path text : String} {model : Model}
    (read : (perform (readInput path) t).1 = .ok text) (parsed : Model.parse text = .ok model) :
    (perform (readModel path) t).1 = .ok model := by
  have start : perform (readInput path) t = (.ok text, t) :=
    Prod.ext read (silent_readInput path t)
  rw [readModel, perform_bind_of_ok start, parsed]
  rfl

theorem perform_readSettings {path text : String} {settings : Settings}
    (read : (perform (readInput path) t).1 = .ok text)
    (parsed : Settings.parse text = .ok settings) :
    (perform ((some path).mapM readSettings) t).1 = .ok (some settings) := by
  have start : perform (readInput path) t = (.ok text, t) :=
    Prod.ext read (silent_readInput path t)
  rw [Option.mapM_some, map_eq_pure_bind, perform_bind, readSettings, perform_bind_of_ok start,
    parsed]
  rfl

/-- What is read and selected is what a run works on. -/
theorem perform_prepare {arguments : Arguments} {s : Selection}
    (model : (perform (readModel arguments.model) t).1 = .ok s.model)
    (settings : (perform (arguments.settings.mapM readSettings) t).1 = .ok s.settings)
    (selected : selectServices s.model s.settings arguments.services arguments.model
      = .ok s.services) : (perform (prepare arguments) t).1 = .ok s := by
  have first : perform (readModel arguments.model) t = (.ok s.model, t) :=
    Prod.ext model (silent_readModel _ t)
  have second : perform (arguments.settings.mapM readSettings) t = (.ok s.settings, t) :=
    Prod.ext settings (silent_readSettings _ t)
  rw [prepare, perform_bind_of_ok first, perform_bind_of_ok second, selected]
  rfl

/-- A run is a selection, the attempts, and the report. -/
theorem perform_run {arguments : Arguments} {s : Selection}
    (prepared : (perform (prepare arguments) t).1 = .ok s) :
    perform (run arguments) t =
      (report (s.attemptAll arguments s.services t).1,
        (s.attemptAll arguments s.services t).2) := by
  have start : perform (prepare arguments) t = (.ok s, t) :=
    Prod.ext prepared (silent_prepare arguments t)
  rw [run, perform_bind_of_ok start]
  rfl

theorem snd_perform_run {arguments : Arguments} {s : Selection}
    (prepared : (perform (prepare arguments) t).1 = .ok s) :
    (perform (run arguments) t).2 = (s.attemptAll arguments s.services t).2 := by
  rw [perform_run prepared]

theorem perform_run_of_error {arguments : Arguments} {e : Failure}
    (prepared : (perform (prepare arguments) t).1 = .error e) :
    perform (run arguments) t = (.error e, t) := by
  have start : perform (prepare arguments) t = (.error e, t) :=
    Prod.ext prepared (silent_prepare arguments t)
  rw [run, perform_bind, start]

/-! ### One service -/

namespace Selection

variable {s : Selection} {arguments : Arguments} {service : ShapeId}

/-- If no code can be generated for a service, its attempt does nothing. -/
theorem perform_attempt_of_error {e : Error} (h : s.generate arguments service = .error e)
    (t : FileTree) : perform (s.attempt arguments service) t = (.error (.generation e), t) := by
  rw [attempt, h, perform_bind]
  rfl

/-- Otherwise its crate is written. -/
theorem attempt_spec {files : SortedMap String String}
    (h : s.generate arguments service = .ok files) (t : FileTree) :
    Attempt (s.attempt arguments service) t
      (Changes (FilePlace (t.target (s.root arguments service)) files.entries) t) fun c u =>
        c = s.crate arguments service ∧
        Lays (t.target (s.root arguments service)) files.entries t u ∧
        u.directory u.current (s.root arguments service)
          = .ok (t.target (s.root arguments service)) := by
  rw [attempt, h]
  have first (left : FileTree → Prop) : Attempt (ExceptT.mk (pure (.ok files))) t left
      fun f u => f = files ∧ u = t :=
    .inr ⟨files, t, rfl, rfl, rfl⟩
  refine (first _).bind fun _ _ ⟨hf, hu⟩ => ?_
  subst hf hu
  refine (attempt_writeCrate _ _ _ _).bind fun path u ⟨hp, lays, there⟩ => ?_
  exact attempt_pure ⟨by rw [hp]; rfl, lays, there⟩

/-! ### All services -/

/-- The place of a service's crate. -/
def place (s : Selection) (arguments : Arguments) (t : FileTree) (service : ShapeId) :
    List String :=
  t.target (s.root arguments service)

/-- A place strictly below the crate of one of some services, for which code is generated. -/
def InCrate (s : Selection) (arguments : Arguments) (t : FileTree) (services : List ShapeId)
    (place : List String) : Prop :=
  ∃ a ∈ services, (∃ files, s.generate arguments a = .ok files) ∧
    ∃ rest, rest ≠ [] ∧ place = s.place arguments t a ++ rest

theorem place_of_changes (s : Selection) (arguments : Arguments) {p : List String → Prop}
    {u : FileTree} (h : Changes p t u) (service : ShapeId) :
    s.place arguments u service = s.place arguments t service :=
  h.target _

theorem inCrate_of_filePlace {files : SortedMap String String}
    (h : s.generate arguments service = .ok files) {other : List String}
    (here : FilePlace (s.place arguments t service) files.entries other) :
    s.InCrate arguments t [service] other := by
  obtain ⟨_, _, rest, _, hn, at?⟩ := exists_of_filePlace (names_of_generateCrate h) here
  exact ⟨service, List.mem_cons_self .., ⟨files, h⟩, rest, hn.ne_nil, at?⟩

theorem attemptAll_cons (a : ShapeId) (l : List ShapeId) (t : FileTree) :
    s.attemptAll arguments (a :: l) t =
      ((a, (perform (s.attempt arguments a) t).1) ::
          (s.attemptAll arguments l (perform (s.attempt arguments a) t).2).1,
        (s.attemptAll arguments l (perform (s.attempt arguments a) t).2).2) := by
  rw [attemptAll, attemptEach, List.mapM_cons]
  rfl

/-- The attempt at a service changes only files of its crate. -/
theorem changes_attempt (s : Selection) (arguments : Arguments) (t : FileTree)
    (service : ShapeId) : Changes (s.InCrate arguments t [service]) t
      (perform (s.attempt arguments service) t).2 := by
  cases h : s.generate arguments service with
  | error e =>
    rw [perform_attempt_of_error h]
    exact changes_refl _ t
  | ok files =>
    rcases attempt_spec h t with ⟨_, _, u, hu, changes⟩ | ⟨_, u, hu, _, lays, _⟩
    · rw [hu]
      exact changes.mono fun _ => inCrate_of_filePlace h
    · rw [hu]
      exact lays.toChanges.mono fun _ => inCrate_of_filePlace h

/-- The attempts change only files of the crates. -/
theorem changes_attemptAll (s : Selection) (arguments : Arguments) (t : FileTree)
    (services : List ShapeId) : Changes (s.InCrate arguments t services) t
      (s.attemptAll arguments services t).2 := by
  induction services generalizing t with
  | nil => exact changes_refl _ t
  | cons a services ih =>
    rw [attemptAll_cons]
    have first := changes_attempt s arguments t a
    refine (first.mono ?_).trans ((ih _).mono ?_)
    · rintro place ⟨b, hb, at?⟩
      rw [List.mem_singleton.mp hb] at at?
      exact ⟨a, List.mem_cons_self .., at?⟩
    · rintro place ⟨b, hb, generated, rest, ne, at?⟩
      rw [place_of_changes s arguments first] at at?
      exact ⟨b, List.mem_cons_of_mem _ hb, generated, rest, ne, at?⟩

end Selection

end Cratewright.Pipeline
