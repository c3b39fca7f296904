/-
Services that fail beside others.

Where crates have directories of their own and no operation on files fails, what comes of a
service does not depend on the others: the directory of its crate holds exactly the files that
are generated for it, or no code can be generated and nothing is written for it:

* `Selection.attemptAll_of_apart` — what comes of the attempts;
* `run_isolates` — the crates and the outcome of a run.
-/
import Mathlib.Data.List.Pairwise
import Cratewright.Proofs.Pipeline.Room

namespace Cratewright.Pipeline

open FileTree

/-- Two places are different, and neither is inside the other. -/
def Apart (p q : List String) : Prop := ¬ p <+: q ∧ ¬ q <+: p

theorem Apart.append_ne {p q : List String} (h : Apart p q) (r r' : List String) :
    p ++ r ≠ q ++ r' := by
  intro same
  have hp : p <+: q ++ r' := ⟨r, same⟩
  rcases List.prefix_or_prefix_of_prefix hp (List.prefix_append q r') with below | below
  · exact h.1 below
  · exact h.2 below

namespace Selection

variable {s : Selection} {arguments : Arguments} {t : FileTree}

/-- What should come of the attempt at a service. -/
def outcome (s : Selection) (arguments : Arguments) (service : ShapeId) :
    Except Failure WrittenCrate :=
  ((s.generate arguments service).mapError .generation).map fun _ => s.crate arguments service

/-- The crate of a service is in its directory. -/
structure IsWritten (s : Selection) (arguments : Arguments) (t u : FileTree) (service : ShapeId)
    (files : SortedMap String String) : Prop where
  holds : Holds files (s.place arguments t service) u
  there : u.directory u.current (s.root arguments service) = .ok (s.place arguments t service)

/-- A crate stays as it is while other crates are written. -/
theorem IsWritten.of_changes {u v : FileTree} {service : ShapeId}
    {files : SortedMap String String} (h : s.IsWritten arguments t u service files)
    {others : List ShapeId} (changes : Changes (s.InCrate arguments u others) u v)
    (current : u.current = t.current)
    (apart : ∀ b ∈ others, Apart (s.place arguments t service) (s.place arguments t b)) :
    s.IsWritten arguments t v service files := by
  constructor
  · intro rest c
    rw [changes.file?]
    · exact h.holds rest c
    · rintro ⟨b, hb, _, below, _, at?⟩
      have place : s.place arguments u b = s.place arguments t b :=
        congrArg (follow · _) current
      rw [place] at at?
      exact (apart b hb).append_ne rest below at?
  · rw [changes.current]
    exact changes.directory_eq h.there

/-- Where no operation fails, a service comes to what it should. -/
theorem attempt_of_success {service : ShapeId}
    (free : ∀ rest, t.file? (s.place arguments t service ++ rest) = none)
    (succeed : ∀ path fault,
      (perform (s.attempt arguments service) t).1 ≠ .error (.files path fault)) :
    (perform (s.attempt arguments service) t).1 = s.outcome arguments service ∧
    ∀ files, s.generate arguments service = .ok files →
      s.IsWritten arguments t (perform (s.attempt arguments service) t).2 service files := by
  cases h : s.generate arguments service with
  | error e =>
    rw [perform_attempt_of_error h, outcome, h]
    exact ⟨rfl, fun files hf => by cases hf⟩
  | ok files =>
    rcases attempt_spec h t with ⟨path, fault, u, hu, _⟩ | ⟨c, u, hu, hc, lays, there⟩
    · exact absurd (congrArg Prod.fst hu) (succeed path fault)
    · rw [hu, hc, outcome, h]
      refine ⟨rfl, fun _ hf => ?_⟩
      cases hf
      exact ⟨lays.holds (names_of_generateCrate h) free, there⟩

/-- Services whose crates are apart come to what they would come to alone. -/
theorem attemptAll_of_apart {services : List ShapeId}
    (free : ∀ a ∈ services, ∀ rest, t.file? (s.place arguments t a ++ rest) = none)
    (apart : services.Pairwise fun a b => Apart (s.place arguments t a) (s.place arguments t b))
    (succeed : ∀ r ∈ (s.attemptAll arguments services t).1, ∀ path fault,
      r.2 ≠ .error (.files path fault)) :
    (s.attemptAll arguments services t).1 = services.map (fun a => (a, s.outcome arguments a)) ∧
    ∀ a ∈ services, ∀ files, s.generate arguments a = .ok files →
      s.IsWritten arguments t (s.attemptAll arguments services t).2 a files := by
  induction services generalizing t with
  | nil => exact ⟨rfl, fun a ha => by cases ha⟩
  | cons a services ih =>
    rw [attemptAll_cons] at succeed ⊢
    have first := changes_attempt s arguments t a
    have places := place_of_changes s arguments first
    have ⟨others, apart⟩ := List.pairwise_cons.mp apart
    have ⟨result, own⟩ := attempt_of_success (free a (List.mem_cons_self ..))
      (succeed _ (List.mem_cons_self ..))
    -- The attempt at the first service leaves the places of the others as they were.
    obtain ⟨results, written⟩ := ih (t := (perform (s.attempt arguments a) t).2)
      (fun b hb rest => by
        rw [places, first.file?]
        · exact free b (List.mem_cons_of_mem _ hb) rest
        · rintro ⟨c, hc, _, below, _, at?⟩
          rw [List.mem_singleton.mp hc] at at?
          exact (others b hb).append_ne below rest at?.symm)
      (apart.imp fun {b c} h => by
        rw [places, places]
        exact h)
      fun r hr => succeed r (List.mem_cons_of_mem _ hr)
    refine ⟨by rw [List.map_cons, result, results], fun b hb files generated => ?_⟩
    rcases List.mem_cons.mp hb with rfl | hb
    · exact (own files generated).of_changes (changes_attemptAll s arguments _ services)
        first.current others
    · obtain ⟨holds, there⟩ := written b hb files generated
      rw [places] at holds there
      exact ⟨holds, there⟩

/-- The services for which no code can be generated, in the order of the selection. -/
def failing (s : Selection) (arguments : Arguments) : List ShapeId :=
  s.services.filter fun a => ! (s.generate arguments a).isOk

theorem outcome_of_ok {service : ShapeId} (h : (s.generate arguments service).isOk = true) :
    s.outcome arguments service = .ok (s.crate arguments service) := by
  rw [outcome]
  cases generated : s.generate arguments service with
  | ok files => rfl
  | error e =>
    rw [generated] at h
    cases h

theorem report_outcomes (services : List ShapeId) :
    report (services.map fun a => (a, s.outcome arguments a)) =
      if (services.filter fun a => ! (s.generate arguments a).isOk).isEmpty then
        .ok (services.map (s.crate arguments))
      else .error (.services (services.filter fun a => ! (s.generate arguments a).isOk)) := by
  have failed : (services.map fun a => (a, s.outcome arguments a)).filterMap failed?
      = services.filter fun a => ! (s.generate arguments a).isOk := by
    rw [List.filterMap_map, ← List.filterMap_eq_filter]
    refine List.filterMap_congr fun a _ => ?_
    rw [Function.comp_apply, failed?, outcome, Option.guard]
    cases s.generate arguments a <;> rfl
  rw [report, failed]
  split
  · rename_i none
    refine congrArg Except.ok ?_
    rw [List.filterMap_map, ← List.filterMap_eq_map]
    refine List.filterMap_congr fun a ha => ?_
    have ok : (s.generate arguments a).isOk = true := by
      have := List.filter_eq_nil_iff.mp (List.isEmpty_iff.mp none) a ha
      simpa using this
    rw [Function.comp_apply, outcome_of_ok ok]
    rfl
  · rfl

end Selection

variable {s : Selection} {arguments : Arguments} {t : FileTree}

/-- **Services do not disturb each other.**  Say that the inputs are read, that there is
nothing where the crates of the selected services go, that these places are apart, and that no
attempt fails at a file. Then the directory of each service for which code can be generated
holds exactly its files; for the others nothing is written, and no other file changes. The
run reports all crates, or else the services for which no code can be generated. -/
theorem run_isolates (prepared : (perform (prepare arguments) t).1 = .ok s)
    (absent : ∀ a ∈ s.services, ∀ rest, t.node? (s.place arguments t a ++ rest) = none)
    (apart : s.services.Pairwise fun a b =>
      Apart (s.place arguments t a) (s.place arguments t b))
    (succeed : ∀ r ∈ (s.attemptAll arguments s.services t).1, ∀ path fault,
      r.2 ≠ .error (.files path fault)) :
    ∃ result u, perform (run arguments) t = (result, u) ∧
      (∀ a ∈ s.services, ∀ files, s.generate arguments a = .ok files →
        u.readAll (s.root arguments a) = .ok files) ∧
      (∀ a ∈ s.services, ∀ e, s.generate arguments a = .error e →
        u.filesBelow (s.place arguments t a) = [] ∧
          ∀ v, (perform (s.attempt arguments a) v).2 = v) ∧
      (∀ place, ¬ s.InCrate arguments t s.services place → u.file? place = t.file? place) ∧
      result =
        if (s.failing arguments).isEmpty then .ok (s.services.map (s.crate arguments))
        else .error (.services (s.failing arguments)) := by
  have free (a : ShapeId) (ha : a ∈ s.services) (rest : List String) :
      t.file? (s.place arguments t a ++ rest) = none :=
    file?_eq_none_of_node? (absent a ha rest)
  -- The root is a directory.
  have ne (a : ShapeId) (ha : a ∈ s.services) : s.place arguments t a ≠ [] := by
    intro root
    have nothing := absent a ha []
    rw [root] at nothing
    cases nothing
  have ⟨results, written⟩ := Selection.attemptAll_of_apart free apart succeed
  have changes := Selection.changes_attemptAll s arguments t s.services
  refine ⟨_, _, perform_run prepared, fun a ha files generated => ?_,
    fun a ha e generated => ⟨?_, fun v => ?_⟩, changes.file?, ?_⟩
  · obtain ⟨holds, there⟩ := written a ha files generated
    exact readAll_eq there (ne a ha) (names_of_generateCrate generated) holds
  · refine List.eq_nil_iff_forall_not_mem.mpr fun ⟨rest, c⟩ mem => ?_
    rw [mem_filesBelow_iff (ne a ha), changes.file?, free a ha] at mem
    · cases mem
    · rintro ⟨b, hb, ⟨files, generatedb⟩, below, _, at?⟩
      by_cases same : a = b
      · rw [← same, generated] at generatedb
        cases generatedb
      · have symmetric : Std.Symm fun a b =>
            Apart (s.place arguments t a) (s.place arguments t b) := ⟨fun _ _ h => ⟨h.2, h.1⟩⟩
        exact (apart.forall ha hb same).append_ne rest below at?
  · rw [Selection.perform_attempt_of_error generated]
  · rw [results, Selection.report_outcomes]
    rfl

/-- A service that speaks no protocol. -/
def sundial : ShapeId := ⟨"time", "Sundial", none⟩

def clocksModel : Model := clockModel.insert sundial (.service {})

/-- The document of this model. -/
def clocksText : String :=
  "\x7b\"shapes\":\x7b\"time#Clock\":\x7b\"type\":\"service\",\"traits\":\x7b" ++
    "\"aws.protocols#restJson1\":\x7b\x7d\x7d\x7d," ++
    "\"time#Sundial\":\x7b\"type\":\"service\"\x7d\x7d\x7d"

/-- A directory with this document. -/
def clocksFiles : FileTree where
  nodes := SortedMap.ofList [(["model.json"], .file (.text clocksText))]

def clocksArguments : Arguments := ⟨"model.json", none, "generated", [], false⟩

def clocks : Selection := ⟨clocksModel, none, [clock, sundial]⟩

theorem prepare_clocks : (perform (prepare clocksArguments) clocksFiles).1 = .ok clocks := by
  have read : (perform (readInput "model.json") clocksFiles).1 = .ok clocksText :=
    Except.eq_ok_of_toOption (by decide)
  have parsed : Model.parse clocksText = .ok clocksModel :=
    Except.eq_ok_of_toOption (by decide +kernel)
  exact perform_prepare (perform_readModel read parsed) rfl rfl

theorem root_clocks : clocks.root clocksArguments clock = "generated/clock" ∧
    clocks.root clocksArguments sundial = "generated/sundial" :=
  ⟨by decide +kernel, by decide +kernel⟩

theorem place_clocks : clocks.place clocksArguments clocksFiles clock = ["generated", "clock"] ∧
    clocks.place clocksArguments clocksFiles sundial = ["generated", "sundial"] := by
  rw [Selection.place, Selection.place, root_clocks.1, root_clocks.2]
  decide

theorem absent_clocks : ∀ a ∈ clocks.services, ∀ rest,
    clocksFiles.node? (clocks.place clocksArguments clocksFiles a ++ rest) = none := by
  have nothing (rest : List String) : clocksFiles.node? ("generated" :: rest) = none := by
    refine node?_eq_none (List.cons_ne_nil _ _) fun n mem => ?_
    have same := (List.cons.inj (congrArg Prod.fst (List.mem_singleton.mp mem))).1
    exact absurd same (by decide)
  intro a ha rest
  rcases List.mem_cons.mp ha with rfl | ha
  · rw [place_clocks.1]
    exact nothing _
  · rw [List.mem_singleton.mp ha, place_clocks.2]
    exact nothing _

theorem apart_clocks : clocks.services.Pairwise fun a b =>
    Apart (clocks.place clocksArguments clocksFiles a)
      (clocks.place clocksArguments clocksFiles b) := by
  have apart : Apart (clocks.place clocksArguments clocksFiles clock)
      (clocks.place clocksArguments clocksFiles sundial) := by
    rw [place_clocks.1, place_clocks.2, Apart]
    decide
  simpa [clocks] using apart

theorem generate_clock : ∃ files, clocks.generate clocksArguments clock = .ok files := by
  have operations : clocksModel.operations clock = .ok [] := by
    show (clocksModel.walk _ (SortedSet.ofList []) [] >>= _) = _
    rw [Model.walk]
    rfl
  exact exists_crate_of_no_operations ⟨clocksModel, clock, clocks.settingsOf clock⟩ rfl operations
    false

theorem generate_sundial : ∃ e, clocks.generate clocksArguments sundial = .error e := by
  have unspoken : (ProtocolLoader.forTarget .client).select clocksModel sundial
      = .error (.unsupportedProtocol sundial [] (ProtocolLoader.forTarget .client).supported) :=
    rfl
  have failed : renderService ⟨clocksModel, sundial, clocks.settingsOf sundial⟩
      (.forTarget .client) false
        = .error (.unsupportedProtocol sundial [] (ProtocolLoader.forTarget .client).supported) := by
    rw [renderService, unspoken]
    rfl
  exact ⟨_, generateCrate_of_error failed⟩

/-- Nothing is in the way of the clock's crate. -/
theorem site_clock {files : SortedMap String String} (fitting : Fitting files.keys) :
    Site (clocks.root clocksArguments clock) files.keys clocksFiles := by
  have absent := absent_clocks clock (List.mem_cons_self ..)
  rw [Selection.place, root_clocks.1] at absent
  rw [root_clocks.1]
  exact .of_absent fitting ⟨by decide, by decide, by decide⟩
    (.inr (.inr ⟨[.normal "generated"], .normal "clock", by decide, nofun⟩)) (by decide) absent

theorem succeed_clocks : ∀ r ∈ (clocks.attemptAll clocksArguments clocks.services clocksFiles).1,
    ∀ path fault, r.2 ≠ .error (.files path fault) := by
  obtain ⟨files, generated⟩ := generate_clock
  obtain ⟨e, failed⟩ := generate_sundial
  have services : clocks.services = [clock, sundial] := rfl
  have site := site_clock (fitting_of_generateCrate generated)
  have first := Selection.perform_attempt_of_site (by decide) generated site
  rw [services, Selection.attemptAll_cons, first, Selection.attemptAll_cons,
    Selection.perform_attempt_of_error failed]
  intro r hr path fault
  rcases List.mem_cons.mp hr with rfl | hr
  · nofun
  · rw [List.mem_singleton.mp hr]
    nofun

/-- A service for which no code can be generated, beside one for which it can. -/
theorem run_isolates_clocks :
    ∃ result u, perform (run clocksArguments) clocksFiles = (result, u) ∧
      (∃ files, clocks.generate clocksArguments clock = .ok files ∧
        u.readAll "generated/clock" = .ok files) ∧
      u.filesBelow ["generated", "sundial"] = [] ∧ result = .error (.services [sundial]) := by
  obtain ⟨files, generated⟩ := generate_clock
  obtain ⟨e, failed⟩ := generate_sundial
  obtain ⟨result, u, performed, written, nothing, _, reported⟩ :=
    run_isolates prepare_clocks absent_clocks apart_clocks succeed_clocks
  have first : clock ∈ clocks.services := List.mem_cons_self ..
  have second : sundial ∈ clocks.services := List.mem_cons_of_mem _ (List.mem_cons_self ..)
  have failing : clocks.failing clocksArguments = [sundial] := by
    have services : clocks.services = [clock, sundial] := rfl
    rw [Selection.failing, services, List.filter_cons, generated, List.filter_cons, failed]
    rfl
  refine ⟨result, u, performed, ⟨files, generated, ?_⟩, ?_, ?_⟩
  · rw [← root_clocks.1]
    exact written clock first files generated
  · rw [← place_clocks.2]
    exact (nothing sundial second e failed).1
  · rw [reported, failing]
    rfl

end Cratewright.Pipeline
