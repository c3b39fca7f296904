/-
What scripts ask for, and where asking ends.

A script records the requirements of the commands that it carries out, in their order. In the
type `Fragment` a script holds whole fragments. A script that looks at the writer may choose
among any number of them, but what it asks for on its own is a finite list, and so is what the
fragments in it ask for in turn:

* `Writer.requirements_template`: a template records what its holes are bound to;
* `isBounded_fragment`: a fragment mentions finitely many keys;
* `Run.finish` therefore always has an outcome.
-/
import Cratewright.Source.Ending

namespace Cratewright

/-! ### What writing records -/

namespace Writer

variable {φ : Type}

theorem requirements_writeLines (w : Writer φ) (ls : List (List Char)) :
    (w.writeLines ls).requirements = w.requirements := by
  induction ls generalizing w with
  | nil => rfl
  | cons l ls ih => exact ih (w.line l)

theorem requirements_writeDocs (w : Writer φ) (ls : List (List Char)) :
    (w.writeDocs ls).requirements = w.requirements :=
  requirements_writeLines w _

/-- What a part of a template's line asks for. -/
def asked (fillings : List (String × Filling φ)) : Template.Segment → List (Requirement φ)
  | .char _ => []
  | .hole name => ((fillings.lookup name).map Filling.requirements).getD []

theorem requirements_fill (w : Writer φ) (fillings : List (String × Filling φ))
    (leading : List Char) (name : String) :
    (w.fill fillings leading name).1.requirements
      = w.requirements ++ asked fillings (.hole name) := by
  rw [fill, asked]
  cases fillings.lookup name with
  | none => exact (List.append_nil _).symm
  | some f =>
    obtain ⟨_, _, _, error⟩ := f
    cases error <;> rfl

theorem requirements_expand (fillings : List (String × Filling φ)) (leading : List Char)
    (segments : List Template.Segment) (w : Writer φ) :
    (expand fillings leading w segments).1.requirements
      = w.requirements ++ segments.flatMap (asked fillings) := by
  induction segments generalizing w with
  | nil => exact (List.append_nil _).symm
  | cons s segments ih =>
    cases s with
    | char c => exact ih w
    | hole name =>
      rw [List.flatMap_cons, ← List.append_assoc, ← requirements_fill w fillings leading]
      exact ih _

/-- A template records what its holes are bound to, hole by hole. -/
theorem requirements_template (w : Writer φ) (fillings : List (String × Filling φ))
    (ls : List (List Char)) :
    (w.template fillings ls).requirements
      = w.requirements ++ (ls.flatMap Template.parse).flatMap (asked fillings) := by
  induction ls generalizing w with
  | nil => exact (List.append_nil _).symm
  | cons l ls ih =>
    rw [List.flatMap_cons, List.flatMap_append, ← List.append_assoc,
      ← requirements_expand fillings (Text.leadingBlanks l)]
    refine (ih _).trans (congrArg (· ++ _) ?_)
    show Writer.requirements (if _ then _ else _) = _
    split
    · rfl
    · exact requirements_writeLines ..

/-- What a template asks for is asked for by one of its bindings. -/
theorem exists_binding_of_asked {fillings : List (String × Filling φ)} {ls : List (List Char)}
    {q : Requirement φ} (h : q ∈ (ls.flatMap Template.parse).flatMap (asked fillings)) :
    ∃ b ∈ fillings, q ∈ b.2.requirements := by
  obtain ⟨s, _, hs⟩ := List.mem_flatMap.mp h
  cases s with
  | char c => cases hs
  | hole name =>
    rw [asked] at hs
    cases hf : fillings.lookup name with
    | none =>
      rw [hf] at hs
      cases hs
    | some f =>
      rw [hf] at hs
      obtain ⟨before, after, rfl, _⟩ := List.lookup_eq_some_iff.mp hf
      exact ⟨(name, f), List.mem_append_right _ (List.mem_cons_self ..), hs⟩

end Writer

/-! ### Requirements that mention finitely many keys -/

section Bounds

variable {φ : Type} [FragmentKind φ]

/-- Requirements mention finitely many keys. -/
def IsBounded (rs : List (Requirement φ)) : Prop :=
  ∃ keys : List FragmentKey, ∀ f, Mentioned rs f → FragmentKind.key f ∈ keys

theorem not_mentioned_nil {f : φ} : ¬ Mentioned [] f := by
  intro h
  induction h with
  | asked h => cases h
  | needed _ _ ih => exact ih

theorem Mentioned.of_cons {r : Requirement φ} {rs : List (Requirement φ)} {f : φ}
    (h : Mentioned (r :: rs) f) : Mentioned [r] f ∨ Mentioned rs f := by
  induction h with
  | asked h =>
    rcases List.mem_cons.mp h with rfl | h
    · exact .inl (.asked (List.mem_cons_self ..))
    · exact .inr (.asked h)
  | needed _ hg ih => exact ih.imp (·.needed hg) (·.needed hg)

/-- What a crate brings in is settled elsewhere. -/
theorem not_mentioned_crate {d : CrateDependency} {f : φ} : ¬ Mentioned [.crate d] f := by
  intro h
  induction h with
  | asked h => cases List.mem_singleton.mp h
  | needed _ _ ih => exact ih

/-- What a fragment mentions is the fragment, and what its needs mention. -/
theorem Mentioned.of_fragment {f g : φ} (h : Mentioned [.fragment f] g) :
    g = f ∨ Mentioned (FragmentKind.needs f) g := by
  induction h with
  | asked h =>
    cases List.mem_singleton.mp h
    exact .inl rfl
  | needed _ hg ih =>
    rcases ih with rfl | ih
    · exact .inr (.asked hg)
    · exact .inr (ih.needed hg)

/-- Requirements are bounded if each of them is. -/
theorem isBounded_of_forall {rs : List (Requirement φ)} (h : ∀ r ∈ rs, IsBounded [r]) :
    IsBounded rs := by
  induction rs with
  | nil => exact ⟨[], fun f hf => absurd hf not_mentioned_nil⟩
  | cons r rs ih =>
    obtain ⟨first, hfirst⟩ := h r (List.mem_cons_self ..)
    obtain ⟨rest, hrest⟩ := ih fun q hq => h q (List.mem_cons_of_mem _ hq)
    refine ⟨first ++ rest, fun f hf => List.mem_append.mpr ?_⟩
    exact hf.of_cons.imp (hfirst f) (hrest f)

theorem isBounded_crate (d : CrateDependency) : IsBounded [(.crate d : Requirement φ)] :=
  ⟨[], fun _ hf => absurd hf not_mentioned_crate⟩

theorem isBounded_of_needs {f : φ} (h : ∀ r ∈ FragmentKind.needs f, IsBounded [r]) :
    IsBounded [.fragment f] := by
  obtain ⟨keys, bound⟩ := isBounded_of_forall h
  refine ⟨FragmentKind.key f :: keys, fun g hg => List.mem_cons.mpr ?_⟩
  exact hg.of_fragment.imp (congrArg FragmentKind.key) (bound g)

end Bounds

/-! In `Fragment`, all requirements are bounded. The proofs follow the script; where it looks at
the writer, the script that it chooses is one of its parts. -/

mutual

theorem isBounded_fragment : ∀ f : Fragment, IsBounded [.fragment f]
  | ⟨name, home, symbol, extra, body⟩ => by
    refine isBounded_of_needs fun r hr => ?_
    rcases List.mem_append.mp hr with hr | hr
    · rcases isBounded_of_runAll body {} r hr with hr | hr
      · cases hr
      · exact hr
    · exact isBounded_of_mem extra r hr
termination_by structural f => f

theorem isBounded_requirement : ∀ r : Requirement Fragment, IsBounded [r]
  | .crate d => isBounded_crate d
  | .fragment f => isBounded_fragment f
termination_by structural r => r

theorem isBounded_of_mem : ∀ (rs : List (Requirement Fragment)), ∀ r ∈ rs, IsBounded [r]
  | [], r, h => by cases h
  | q :: rs, r, h => by
    rcases List.mem_cons.mp h with same | h
    · rw [same]
      exact isBounded_requirement q
    · exact isBounded_of_mem rs r h
termination_by structural rs => rs

/-- A command records nothing else than what is bounded. -/
theorem isBounded_of_run : ∀ (c : Command Fragment) (w : Writer Fragment),
    ∀ q ∈ (Writer.run w c).requirements, q ∈ w.requirements ∨ IsBounded [q]
  | .code text, w, q, h => by
    rw [Writer.run, Writer.requirements_writeLines] at h
    exact .inl h
  | .raw text, w, q, h => by
    rw [Writer.run, Writer.requirements_writeLines] at h
    exact .inl h
  | .template text bindings, w, q, h => by
    rw [Writer.run, Writer.requirements_template] at h
    rcases List.mem_append.mp h with h | h
    · exact .inl h
    · obtain ⟨b, hb, hq⟩ := Writer.exists_binding_of_asked h
      exact .inr (isBounded_of_fillings bindings b hb q hq)
  | .blankLine, w, q, h => .inl h
  | .block header body, w, q, h => by
    let opened := w.line (Text.trim header.toList ++ [' ', '\x7b'])
    exact isBounded_of_runAll body { opened with depth := opened.depth + 1 } q h
  | .docs text, w, q, h => by
    rw [Writer.run, Writer.requirements_writeDocs] at h
    exact .inl h
  | .attribute text, w, q, h => .inl h
  | .splice none, w, q, h => .inl h
  | .splice (some script), w, q, h => isBounded_of_runAll script w q h
  | .require r, w, q, h => by
    rcases List.mem_append.mp h with h | h
    · exact .inl h
    · rw [List.mem_singleton.mp h]
      exact .inr (isBounded_requirement r)
  | .fail e, w, q, h => .inl h
  -- The chosen script is a part of the command whatever is seen, so the recursion is structural.
  | .look choose, w, q, h => isBounded_of_runAll (choose w.view) w q h
termination_by structural c => c

theorem isBounded_of_runAll : ∀ (script : List (Command Fragment)) (w : Writer Fragment),
    ∀ q ∈ (Writer.runAll w script).requirements, q ∈ w.requirements ∨ IsBounded [q]
  | [], w, q, h => .inl h
  | c :: script, w, q, h => by
    rcases isBounded_of_runAll script (Writer.run w c) q h with h | h
    · exact isBounded_of_run c w q h
    · exact .inr h
termination_by structural script => script

theorem isBounded_of_filling : ∀ (a : Argument Fragment),
    ∀ q ∈ (Writer.filling a).requirements, IsBounded [q]
  | .text _, q, h => by cases h
  | .item ⟨_, none⟩, q, h => by cases h
  | .item ⟨_, some r⟩, q, h => by
    rw [List.mem_singleton.mp h]
    exact isBounded_requirement r
  | .code none, q, h => by cases h
  | .code (some script), q, h => by
    rcases isBounded_of_runAll script {} q h with h | h
    · cases h
    · exact h
termination_by structural a => a

theorem isBounded_of_fillings : ∀ (bindings : List (String × Argument Fragment)),
    ∀ b ∈ Writer.fillings bindings, ∀ q ∈ b.2.requirements, IsBounded [q]
  | [], b, h => by cases h
  | (name, a) :: rest, b, h => by
    intro q hq
    rcases List.mem_cons.mp h with rfl | h
    · exact isBounded_of_filling a q hq
    · exact isBounded_of_fillings rest b h q hq
termination_by structural bindings => bindings

end

namespace Run

/-- The rounds of fragments that hold what they refer to come to an end. -/
theorem ends_fragment (r : Run Fragment) : Progress.Ends { run := r } := by
  obtain ⟨keys, bound⟩ : IsBounded (r.fragments.toList.map .fragment) :=
    isBounded_of_forall fun q _ => isBounded_requirement q
  have outcome : r.finish?.isSome := isSome_finish? bound
  rw [finish?, Option.isSome_map] at outcome
  exact Progress.isSome_complete?_iff.mp outcome

/-- Writes every fragment, also those that other fragments bring in. -/
def finish (r : Run Fragment) : Except Error RunOutput :=
  (Progress.complete { run := r } r.ends_fragment).map Progress.output

theorem finish?_eq_some_finish (r : Run Fragment) : r.finish? = some r.finish := by
  rw [finish?, Progress.complete?, dif_pos r.ends_fragment]
  rfl

end Run

end Cratewright
