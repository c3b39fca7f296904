/-
What scripts ask for, command by command.

A script asks for fragments if carrying it out, whatever has been written before, adds these
to what is needed and records no error. A template does so if all its holes are bound, and
then asks for what the holes are filled with, hole by hole:

* `Writer.Asks.append`, `Writer.Asks.flatMap` — scripts one after the other;
* `Writer.Asks.template` — the rule for templates, with `Writer.Asks.plain` for those that
  are filled with nothing but texts and crates;
* `Customization.asks_compose` — what customizations say at a section.
-/
import Mathlib.Data.List.Forall2
import Cratewright.Proofs.Source.History
import Cratewright.Source.Reach

namespace Cratewright

variable {φ : Type}

/-! ### The holes of a template -/

namespace Template

def Segment.name? : Segment → Option String
  | .char _ => none
  | .hole name => some name

/-- The names of the holes in a text, in their order. -/
def holesIn (text : List Char) : List String :=
  ((Text.dedent text).flatMap parse).filterMap Segment.name?

def holes (text : String) : List String := holesIn text.toList

/-- A text is put together from literals that are given by their characters. -/
inductive Spelled : String → List Char → Prop where
  | append {s t : String} {cs ds : List Char} :
      Spelled s cs → Spelled t ds → Spelled (s ++ t) (cs ++ ds)
  | literal {cs : List Char} : Spelled (String.ofList cs) cs

theorem Spelled.toList_eq {s : String} {cs : List Char} (h : Spelled s cs) : s.toList = cs := by
  induction h with
  | append _ _ ihs iht => rw [String.toList_append, ihs, iht]
  | literal => exact String.toList_ofList

theorem holes_of_spelled {text : String} {cs : List Char} {names : List String}
    (h : Spelled text cs) (hn : holesIn cs = names) : holes text = names := by
  rw [holes, h.toList_eq, hn]

theorem toList_ofLines {ls : List String} {css : List (List Char)}
    (h : List.Forall₂ Spelled ls css) : (Text.ofLines ls).toList = ['\n'].intercalate css := by
  have spelled : ls.map String.toList = css := by
    induction h with
    | nil => rfl
    | cons h _ ih => rw [List.map_cons, h.toList_eq, ih]
  rw [Text.ofLines, String.toList_intercalate, spelled]
  rfl

theorem holes_ofLines {ls : List String} {css : List (List Char)} {names : List String}
    (h : List.Forall₂ Spelled ls css) (hn : holesIn (['\n'].intercalate css) = names) :
    holes (Text.ofLines ls) = names := by
  rw [holes, toList_ofLines h, hn]

end Template

/-! ### Fragments among requirements -/

namespace Requirement

theorem fragments_flatMap {α : Type} (l : List α) (f : α → List (Requirement φ)) :
    fragments (l.flatMap f) = l.flatMap fun a => fragments (f a) :=
  List.filterMap_flatMap ..

end Requirement

namespace ItemPath

/-- The fragments that a path asks for. -/
def fragments (i : ItemPath φ) : List φ := Requirement.fragments i.requirement.toList

@[simp] theorem fragments_resolve (i : ItemPath φ) (item : String) :
    (i.resolve item).fragments = i.fragments :=
  rfl

@[simp] theorem fragments_ofCrate (d : CrateDependency) :
    (ofCrate d : ItemPath φ).fragments = [] :=
  rfl

@[simp] theorem fragments_item [FragmentKind φ] (f : φ) :
    (FragmentKind.item f).fragments = [f] :=
  rfl

end ItemPath

namespace Writer

/-! ### Writing records no error by itself -/

theorem error_writeLines (w : Writer φ) (ls : List (List Char)) :
    (w.writeLines ls).error = w.error := by
  induction ls generalizing w with
  | nil => rfl
  | cons l ls ih => exact ih (w.line l)

theorem error_expand {fillings : List (String × Filling φ)} (leading : List Char) :
    ∀ {segments : List Template.Segment} (w : Writer φ),
      (∀ name, .hole name ∈ segments → ∃ f, fillings.lookup name = some f ∧ f.error = none) →
        (expand fillings leading w segments).1.error = w.error
  | [], _, _ => rfl
  | .char c :: rest, w, bound => by
    rw [expand]
    exact error_expand leading w fun name h => bound name (List.mem_cons_of_mem _ h)
  | .hole name :: rest, w, bound => by
    obtain ⟨f, hf, clean⟩ := bound name (List.mem_cons_self ..)
    have filled : (w.fill fillings leading name).1.error = w.error := by
      rw [fill, hf]
      simp only [clean]
      rfl
    rw [← filled]
    exact error_expand leading _ fun other h => bound other (List.mem_cons_of_mem _ h)

/-- A template of which every hole is bound records no error. -/
theorem error_template {fillings : List (String × Filling φ)} {ls : List (List Char)}
    (w : Writer φ)
    (bound : ∀ name, .hole name ∈ ls.flatMap Template.parse →
      ∃ f, fillings.lookup name = some f ∧ f.error = none) :
    (w.template fillings ls).error = w.error := by
  induction ls generalizing w with
  | nil => rfl
  | cons l ls ih =>
    have line : (templateLine fillings w l).error = w.error := by
      have expanded := error_expand (Text.leadingBlanks l) w fun name h =>
        bound name (List.mem_flatMap.mpr ⟨l, List.mem_cons_self .., h⟩)
      show Writer.error (if _ then _ else _) = _
      split
      · exact expanded
      · rw [error_writeLines]
        exact expanded
    rw [← line]
    refine ih _ fun name h => bound name ?_
    rw [List.flatMap_cons]
    exact List.mem_append_right _ h

/-! ### What a script asks for -/

/-- The script records no error and asks for exactly the given fragments, in their order. -/
structure Asks (script : List (Command φ)) (fs : List φ) : Prop where
  fragments (w : Writer φ) : Requirement.fragments (runAll w script).requirements
    = Requirement.fragments w.requirements ++ fs
  error (w : Writer φ) : (runAll w script).error = w.error

variable {script rest : List (Command φ)} {fs gs : List φ}

theorem runAll_append (w : Writer φ) (script rest : List (Command φ)) :
    runAll w (script ++ rest) = runAll (runAll w script) rest := by
  induction script generalizing w with
  | nil => rfl
  | cons c script ih => exact ih (run w c)

theorem asks_nil : Asks ([] : List (Command φ)) [] where
  fragments _ := (List.append_nil _).symm
  error _ := rfl

theorem Asks.append (h : Asks script fs) (hr : Asks rest gs) :
    Asks (script ++ rest) (fs ++ gs) where
  fragments w := by
    rw [runAll_append, hr.fragments, h.fragments, List.append_assoc]
  error w := by rw [runAll_append, hr.error, h.error]

theorem Asks.cons {c : Command φ} (h : Asks [c] fs) (hr : Asks rest gs) :
    Asks (c :: rest) (fs ++ gs) :=
  h.append hr

/-- A command that asks for nothing may come first. -/
theorem Asks.after {c : Command φ} (h : Asks [c] []) (hr : Asks rest gs) :
    Asks (c :: rest) gs :=
  h.append hr

theorem Asks.flatMap {α : Type} {f : α → List (Command φ)} {g : α → List φ} :
    ∀ {l : List α}, (∀ a ∈ l, Asks (f a) (g a)) → Asks (l.flatMap f) (l.flatMap g)
  | [], _ => asks_nil
  | a :: l, h => by
    rw [List.flatMap_cons, List.flatMap_cons]
    exact (h a (List.mem_cons_self ..)).append
      (Asks.flatMap fun b hb => h b (List.mem_cons_of_mem _ hb))

/-- Writing lines asks for nothing. -/
theorem asks_writeLines {c : Command φ} (ls : List (List Char))
    (h : ∀ w, run w c = w.writeLines ls) : Asks [c] [] where
  fragments w := by
    rw [runAll, runAll, h, requirements_writeLines, List.append_nil]
  error w := by rw [runAll, runAll, h, error_writeLines]

theorem asks_code (text : String) : Asks [(.code text : Command φ)] [] :=
  asks_writeLines _ fun _ => by rw [run]

theorem asks_raw (text : String) : Asks [(.raw text : Command φ)] [] :=
  asks_writeLines _ fun _ => by rw [run]

theorem asks_docs (text : String) : Asks [(.docs text : Command φ)] [] :=
  asks_writeLines _ fun _ => by
    rw [run]
    rfl

theorem asks_attribute (text : String) : Asks [(.attribute text : Command φ)] [] :=
  asks_writeLines [_] fun _ => rfl

theorem asks_blankLine : Asks [(.blankLine : Command φ)] [] :=
  asks_writeLines [_] fun _ => rfl

theorem asks_require (r : Requirement φ) : Asks [.require r] (Requirement.fragments [r]) where
  fragments w := Requirement.fragments_append w.requirements [r]
  error _ := rfl

theorem Asks.block {header : String} (h : Asks script fs) : Asks [.block header script] fs where
  fragments w := h.fragments { w.line _ with depth := _ }
  error w := h.error { w.line _ with depth := _ }

/-- What a contributor has to say is asked for where it is spliced in. -/
theorem Asks.splice {snippet : Snippet φ} (h : Asks (snippet.getD []) fs) :
    Asks [.splice snippet] fs := by
  cases snippet with
  | none => exact ⟨h.fragments, h.error⟩
  | some script => exact ⟨h.fragments, h.error⟩

/-! ### Templates -/

/-- Filling a hole with the argument records no error and asks for the given fragments. -/
structure Supplies (a : Argument φ) (fs : List φ) : Prop where
  fragments : Requirement.fragments (filling a).requirements = fs
  error : (filling a).error = none

theorem supplies_text (t : String) : Supplies (.text t : Argument φ) [] := ⟨rfl, rfl⟩

theorem supplies_item (i : ItemPath φ) : Supplies (.item i) i.fragments := ⟨rfl, rfl⟩

theorem Asks.supplies_some (h : Asks script fs) : Supplies (.code (some script)) fs :=
  ⟨h.fragments {}, h.error {}⟩

theorem Asks.supplies {snippet : Snippet φ} (h : Asks (snippet.getD []) fs) :
    Supplies (.code snippet) fs := by
  cases snippet with
  | none =>
    have nothing : [] = fs := h.fragments {}
    exact ⟨nothing, rfl⟩
  | some script => exact h.supplies_some

/-- Names are bound to arguments that supply the given fragments. -/
abbrev Bound (bindings : List (String × Argument φ)) (supplies : List (String × List φ)) :
    Prop :=
  List.Forall₂ (fun b s => b.1 = s.1 ∧ Supplies b.2 s.2) bindings supplies

section Bound

variable {a : Argument φ} {bindings : List (String × Argument φ)}
  {supplies : List (String × List φ)}

theorem Supplies.cons (name : String) (h : Supplies a fs) (hb : Bound bindings supplies) :
    Bound ((name, a) :: bindings) ((name, fs) :: supplies) :=
  .cons ⟨rfl, h⟩ hb

theorem Supplies.bound (name : String) (h : Supplies a fs) : Bound [(name, a)] [(name, fs)] :=
  h.cons name .nil

end Bound

theorem Bound.lookup {bindings : List (String × Argument φ)}
    {supplies : List (String × List φ)} (h : Bound bindings supplies) {name : String}
    (bound : name ∈ supplies.map Prod.fst) :
    ∃ f, (fillings bindings).lookup name = some f ∧ f.error = none ∧
      Requirement.fragments f.requirements = (supplies.lookup name).getD [] := by
  induction h with
  | nil => cases bound
  | @cons b s bindings supplies hb _ ih =>
    obtain ⟨n, a⟩ := b
    obtain ⟨_, fs⟩ := s
    obtain ⟨rfl, ha⟩ := hb
    rw [fillings, List.lookup_cons, List.lookup_cons]
    by_cases same : name = n
    · subst same
      simp only [beq_self_eq_true]
      exact ⟨_, rfl, ha.error, ha.fragments⟩
    · have later : name ∈ supplies.map Prod.fst := by
        rcases List.mem_cons.mp bound with rfl | later
        · exact absurd rfl same
        · exact later
      simp only [beq_eq_false_iff_ne.mpr same]
      exact ih later

theorem flatMap_name? {l : List Template.Segment} (g : Template.Segment → List φ)
    (hg : ∀ c, g (.char c) = []) :
    l.flatMap g = (l.filterMap Template.Segment.name?).flatMap fun name => g (.hole name) := by
  induction l with
  | nil => rfl
  | cons s l ih =>
    cases s with
    | char c => rw [List.flatMap_cons, hg, ih]; rfl
    | hole name => rw [List.flatMap_cons, ih]; rfl

/-- A template of which every hole is bound asks for what its holes are filled with. -/
theorem Asks.template {text : String} {bindings : List (String × Argument φ)}
    {supplies : List (String × List φ)} (names : List String) (h : Bound bindings supplies)
    (holes : Template.holes text = names) (bound : ∀ n ∈ names, n ∈ supplies.map Prod.fst)
    (hfs : (names.flatMap fun n => (supplies.lookup n).getD []) = fs) :
    Asks [.template text bindings] fs where
  fragments w := by
    -- What is needed hole by hole, first as fillings give it, then as it is bound.
    have filled : (names.flatMap fun n =>
        Requirement.fragments (asked (Writer.fillings bindings) (.hole n))) = fs := by
      rw [← hfs]
      refine List.flatMap_congr fun n hn => ?_
      obtain ⟨f, hf, _, fragments⟩ := h.lookup (bound n hn)
      rw [asked, hf]
      exact fragments
    have segments := flatMap_name? (l := (Text.dedent text.toList).flatMap Template.parse)
      (fun s => Requirement.fragments (asked (Writer.fillings bindings) s)) fun _ => rfl
    rw [runAll, runAll, run, requirements_template, Requirement.fragments_append,
      Requirement.fragments_flatMap, segments, ← filled, ← holes]
    rfl
  error w := by
    rw [runAll, runAll, run]
    refine error_template w fun n hn => ?_
    have mem : n ∈ names := by
      rw [← holes]
      exact List.mem_filterMap.mpr ⟨_, hn, rfl⟩
    obtain ⟨f, hf, clean, _⟩ := h.lookup (bound n mem)
    exact ⟨f, hf, clean⟩

/-- A template that is filled with texts and crates asks for no fragment. -/
theorem Asks.plain {text : String} {bindings : List (String × Argument φ)}
    (names : List String) (h : ∀ b ∈ bindings, Supplies b.2 [])
    (holes : Template.holes text = names) (bound : ∀ n ∈ names, n ∈ bindings.map Prod.fst) :
    Asks [.template text bindings] [] := by
  have supplied : Bound bindings (bindings.map fun b => (b.1, [])) := by
    rw [Bound, List.forall₂_map_right_iff, List.forall₂_same]
    exact fun b hb => ⟨rfl, h b hb⟩
  refine .template names supplied holes (by simpa using bound) ?_
  rw [List.flatMap_eq_nil_iff]
  intro n _
  cases hs : (bindings.map fun b => (b.1, ([] : List φ))).lookup n with
  | none => rfl
  | some fs =>
    obtain ⟨_, _, e, _⟩ := List.lookup_eq_some_iff.mp hs
    have mem : (n, fs) ∈ bindings.map fun b => (b.1, ([] : List φ)) := e ▸ by simp
    obtain ⟨_, _, e⟩ := List.mem_map.mp mem
    exact (Prod.ext_iff.mp e).2.symm

/-- A script that asks for fragments writes a text that needs them. -/
theorem Asks.render (h : Asks script fs) :
    ∃ out, Cratewright.render script = .ok out ∧ Requirement.fragments out.requirements = fs := by
  have clean : (runAll {} script).error = none := h.error {}
  rw [Cratewright.render, finish, clean]
  exact ⟨_, rfl, h.fragments {}⟩

end Writer

/-! ### Customizations -/

namespace Customization

variable {σ : Type}

theorem getD_compose (cs : List (Customization σ)) (s : σ) :
    (compose cs s).getD [] = cs.flatMap fun c => (c.contribute s).getD [] := by
  have parts : (cs.filterMap (·.contribute s)).flatten
      = cs.flatMap fun c => (c.contribute s).getD [] := by
    induction cs with
    | nil => rfl
    | cons c cs ih =>
      rw [List.flatMap_cons, ← ih]
      cases hc : c.contribute s with
      | none => simp [hc]
      | some script => simp [hc]
  rw [compose, ← parts]
  split
  · rename_i none
    rw [none]
    rfl
  · rfl

/-- At a section, what each customization says is asked for in turn. -/
theorem asks_compose {cs : List (Customization σ)} {s : σ} {fs : List Fragment}
    (h : Writer.Asks (cs.flatMap fun c => (c.contribute s).getD []) fs) :
    Writer.Asks ((compose cs s).getD []) fs := by
  rw [getD_compose]
  exact h

end Customization

end Cratewright
