/-
What customizations say together.

At a section, customizations say in their order what each of them says. Blind scripts are
independent of where they are run, so that the text of all is made of the texts of each. A piece
that looks at the writer may say something else behind the others than on its own:

* `Snippet.text_append` — the text of a blind script behind another;
* `Customization.run_splice_compose` — what is composed is written piece by piece;
* `Customization.text_compose` — the text of what is composed, or the first error in it;
* `Customization.compose_in_order` — composition keeps the order of the customizations;
* `Customization.not_forall_text_compose` — a piece that looks for the start of the text.
-/
import Cratewright.Proofs.Source.Placement

namespace Cratewright

variable {φ : Type}

/-- Of steps that are taken in turn, the first that fails decides. -/
theorem mapM_eq_error_of_first {ε α β : Type} {f : α → Except ε β} {before after : List α} {a : α}
    {e : ε} (clean : ∀ b ∈ before, ∃ y, f b = .ok y) (failing : f a = .error e) :
    (before ++ a :: after).mapM f = .error e := by
  induction before with
  | nil =>
    rw [List.nil_append, List.mapM_cons, failing]
    rfl
  | cons b before ih =>
    obtain ⟨y, hy⟩ := clean b (List.mem_cons_self ..)
    have rest := ih fun d hd => clean d (List.mem_cons_of_mem _ hd)
    rw [List.cons_append, List.mapM_cons, hy, rest]
    rfl

/-! ### Texts of scripts -/

namespace Snippet

theorem text_eq (s : Snippet φ) :
    s.text = ((Writer.runAll {} (s.getD [])).finish).map Output.contents :=
  rfl

/-- At the start of a line, text follows text as it stands. -/
theorem contents_extend {w : Writer φ} (v : Writer φ) (top : w.depth = 0) :
    (w.extend v).contents = w.contents ++ v.contents := by
  have same : v.lines.map (Writer.hung (Writer.blanks w.depth)) = v.lines := by
    rw [top]
    exact (List.map_congr_left fun l _ => Writer.hung_nil_left l).trans (List.map_id _)
  show String.ofList (Text.unlines (w.lines ++ v.lines.map _)) = _
  rw [same, Text.unlines, List.flatMap_append, String.ofList_append]
  rfl

/-- The text of a blind script behind another, unless one of them records an error. -/
theorem text_append (script : List (Command φ)) {rest : List (Command φ)}
    (blind : Command.AllBlind rest) :
    text (some (script ++ rest)) = do
      let first ← text (some script)
      let second ← text (some rest)
      return first ++ second := by
  let w : Writer φ := Writer.runAll {} script
  let v : Writer φ := Writer.runAll {} rest
  have whole : Writer.runAll {} (script ++ rest) = w.extend v := by
    rw [Writer.runAll_append, Writer.runAll_eq_extend _ blind]
  have top : w.depth = 0 := Writer.depth_runAll {} script
  have error : (w.extend v).error = w.error.or v.error := rfl
  show ((Writer.runAll {} (script ++ rest)).finish).map Output.contents
    = (w.finish.map Output.contents).bind fun first =>
        (v.finish.map Output.contents).bind fun second => .ok (first ++ second)
  rw [whole, Writer.finish, Writer.finish, Writer.finish, error]
  cases w.error with
  | some e => rfl
  | none =>
    cases v.error with
    | some e => rfl
    | none => exact congrArg Except.ok (contents_extend v top)

end Snippet

/-! ### Composition -/

namespace Customization

variable {σ : Type} (cs : List (Customization σ)) (s : σ)

theorem compose_eq_none_iff : compose cs s = none ↔ ∀ c ∈ cs, c.contribute s = none := by
  rw [compose]
  split
  · rename_i nothing
    simpa [List.filterMap_eq_nil_iff] using nothing
  · rename_i parts something
    constructor
    · intro h
      cases h
    · intro h
      exact absurd (List.filterMap_eq_nil_iff.mpr h) something

/-- What is composed is written piece by piece. -/
theorem run_splice_compose (w : Writer Fragment) :
    Writer.run w (.splice (compose cs s))
      = cs.foldl (fun w c => Writer.run w (.splice (c.contribute s))) w := by
  have splice (w : Writer Fragment) (t : Snippet Fragment) :
      Writer.run w (.splice t) = Writer.runAll w (t.getD []) := Writer.runAll_splice w t
  rw [splice, getD_compose]
  induction cs generalizing w with
  | nil => rfl
  | cons c cs ih =>
    rw [List.flatMap_cons, Writer.runAll_append, List.foldl_cons, ih, splice]

/-- The text of what is composed is made of the texts of the pieces in their order, or is the
first error among them. The first piece may look at the writer, where it sees nothing. -/
theorem text_compose (blind : ∀ c ∈ cs.tail, (c.contribute s).IsBlind) :
    (compose cs s).text
      = (cs.mapM fun c : Customization σ => (c.contribute s).text).map String.join := by
  rw [Snippet.text_eq, getD_compose]
  induction cs with
  | nil => rfl
  | cons c cs ih =>
    have rest : Command.AllBlind (cs.flatMap fun c => (c.contribute s).getD []) :=
      Command.allBlind_flatMap blind
    have pieces := Snippet.text_append ((c.contribute s).getD []) rest
    rw [Snippet.text_eq, Option.getD_some] at pieces
    rw [List.flatMap_cons, pieces, List.mapM_cons]
    show (do
      let first ← (c.contribute s).text
      let second ← ((Writer.runAll {} (cs.flatMap _)).finish).map Output.contents
      return first ++ second) = _
    rw [ih fun d hd => blind d (List.mem_of_mem_tail hd)]
    cases (c.contribute s).text with
    | error e => rfl
    | ok first =>
      cases cs.mapM fun c : Customization σ => (c.contribute s).text with
      | error e => rfl
      | ok texts => exact congrArg Except.ok (String.join_cons ..).symm

/-- Composition keeps the order of the customizations: nothing is said if and only if none of
them says anything; what they say is written in any writer one after the other, so that a list
behind another says what both say. If no piece behind the first looks at the writer, the text of
all on its own is that of the pieces, put together without anything between them, or the error of
the first piece that has one. -/
theorem compose_in_order :
    (compose cs s = none ↔ ∀ c ∈ cs, c.contribute s = none) ∧
    (∀ w, Writer.run w (.splice (compose cs s))
      = cs.foldl (fun w c => Writer.run w (.splice (c.contribute s))) w) ∧
    (∀ ds w, Writer.run w (.splice (compose (cs ++ ds) s))
      = Writer.run (Writer.run w (.splice (compose cs s))) (.splice (compose ds s))) ∧
    ((∀ c ∈ cs.tail, (c.contribute s).IsBlind) →
      (∀ texts, cs.mapM (fun c => (c.contribute s).text) = .ok texts →
        (compose cs s).text = .ok (String.join texts)) ∧
      (∀ before c after e, cs = before ++ c :: after →
        (∀ b ∈ before, ∃ t, (b.contribute s).text = .ok t) → (c.contribute s).text = .error e →
          (compose cs s).text = .error e)) := by
  refine ⟨compose_eq_none_iff cs s, run_splice_compose cs s, ?_, fun blind => ⟨?_, ?_⟩⟩
  · intro ds w
    rw [run_splice_compose, run_splice_compose, run_splice_compose, List.foldl_append]
  · intro texts h
    rw [text_compose cs s blind, h]
    rfl
  · rintro before c after e rfl clean failing
    rw [text_compose _ s blind, mapM_eq_error_of_first clean failing]
    rfl

/-- Leaves a note at the header, and has nothing to say elsewhere. -/
def noting (name : String) : Customization Bool where
  name
  contribute header := if header then some [.code ("// " ++ name)] else none

/-- Has only an error to report. -/
def failing : Customization Bool where
  name := "failing"
  contribute _ := some [.fail (.unknownShape "a#B")]

theorem compose_in_order_notes :
    (∀ c ∈ [noting "first", noting "second"].tail, (c.contribute true).IsBlind) ∧
      ([noting "first", noting "second"].mapM fun c => (c.contribute true).text)
        = .ok ["// first\n", "// second\n"] ∧
      (compose [noting "first", noting "second"] true).text
        = .ok (String.join ["// first\n", "// second\n"]) ∧
      (∀ c ∈ [noting "first", failing, noting "second"].tail, (c.contribute true).IsBlind) ∧
      (∀ b ∈ [noting "first"], ∃ t, (b.contribute true).text = .ok t) ∧
      (failing.contribute true).text = .error (.unknownShape "a#B") ∧
      (compose [noting "first", failing, noting "second"] true).text
        = .error (.unknownShape "a#B") := by
  have first : ((noting "first").contribute true).text = .ok "// first\n" := by rfl
  have second : ((noting "second").contribute true).text = .ok "// second\n" := by rfl
  have texts : ([noting "first", noting "second"].mapM fun c => (c.contribute true).text)
      = .ok ["// first\n", "// second\n"] := by
    rw [List.mapM_cons, List.mapM_cons, first, second]
    rfl
  have clean : ∀ b ∈ [noting "first"], ∃ t, (b.contribute true).text = .ok t := by
    intro b hb
    rw [List.mem_singleton.mp hb]
    exact ⟨_, first⟩
  have error : (failing.contribute true).text = .error (.unknownShape "a#B") := by rfl
  have note : ((noting "second").contribute true).IsBlind := ⟨trivial, trivial⟩
  have report : (failing.contribute true).IsBlind := ⟨trivial, trivial⟩
  have blind : ∀ c ∈ [noting "first", noting "second"].tail, (c.contribute true).IsBlind :=
    List.forall_mem_singleton.mpr note
  have blind' : ∀ c ∈ [noting "first", failing, noting "second"].tail,
      (c.contribute true).IsBlind :=
    List.forall_mem_cons.mpr ⟨report, List.forall_mem_singleton.mpr note⟩
  obtain ⟨-, -, -, both⟩ := compose_in_order [noting "first", noting "second"] true
  obtain ⟨-, -, -, three⟩ := compose_in_order [noting "first", failing, noting "second"] true
  exact ⟨blind, texts, (both blind).1 _ texts, blind', clean, error,
    (three blind').2 [noting "first"] failing _ _ rfl clean error⟩

/-- Writes a call at the start of a text, and nothing where something has been written. -/
def opening : Customization Bool where
  name := "opening"
  contribute _ := some [.look fun v => if v.contents = "" then [.code "x();"] else []]

/-- Behind a note, the call is missing from the text of both, though it is the second one's own
text. -/
theorem not_forall_text_compose :
    ¬ ∀ (cs : List (Customization Bool)) (s : Bool) (texts : List String),
      cs.mapM (fun c => (c.contribute s).text) = .ok texts →
        (compose cs s).text = .ok (String.join texts) := by
  intro all
  have marker : ((noting "marker").contribute true).text = .ok "// marker\n" := by rfl
  have call : (opening.contribute true).text = .ok "x();\n" := by rfl
  have texts : ([noting "marker", opening].mapM fun c => (c.contribute true).text)
      = .ok ["// marker\n", "x();\n"] := by
    rw [List.mapM_cons, List.mapM_cons, marker, call]
    rfl
  have together : (compose [noting "marker", opening] true).text = .ok "// marker\n" := by rfl
  have joined := all _ _ _ texts
  rw [together] at joined
  injection joined with same
  exact absurd same (by decide)

end Customization

end Cratewright
