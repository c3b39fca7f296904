/-
Insertions into scripts.

A script is kept in another if running the other in its place leaves nothing out. So a blind
script is kept in another that has more commands, whatever those do, and this carries over to
code in blocks and to code that fills a hole of a template:

* `Writer.keeps_nil`, `Writer.Keeps.append` — scripts with more commands;
* `Writer.Keeps.block`, `Writer.Keeps.splice`, `Writer.Keeps.template` — code inside others;
* `Writer.Keeps.inserts` — the texts of two scripts;
* `Customization.keeps_compose` — what customizations say at a section.
-/
import Cratewright.Proofs.Source.States

namespace Cratewright

variable {φ : Type}

namespace Writer

/-! ### What scripts keep -/

/-- Where the second script is run in place of the first, nothing is missing that the first
would leave behind. -/
def Keeps (script extended : List (Command φ)) : Prop :=
  ∀ w w' : Writer φ, Below w w' → Below (runAll w script) (runAll w' extended)

variable {w w' : Writer φ} {script extended rest more : List (Command φ)}

theorem Keeps.refl {script : List (Command φ)} (blind : Command.AllBlind script) :
    Keeps script script :=
  fun _ _ h => h.runAll script blind

/-- Any script can be inserted, also one that looks at the writer. -/
theorem keeps_nil (extended : List (Command φ)) : Keeps [] extended :=
  fun _ w' h => h.trans (below_runAll extended w')

theorem Keeps.append (h : Keeps script extended) (hr : Keeps rest more) :
    Keeps (script ++ rest) (extended ++ more) := by
  intro w w' below
  rw [runAll_append, runAll_append]
  exact hr _ _ (h w w' below)

theorem Keeps.cons {c d : Command φ} (h : Keeps [c] [d]) (hr : Keeps rest more) :
    Keeps (c :: rest) (d :: more) :=
  h.append hr

/-- The same command may come first. -/
theorem Keeps.after {c : Command φ} (blind : c.IsBlind) (hr : Keeps rest more) :
    Keeps (c :: rest) (c :: more) := by
  have one : Command.AllBlind [c] := ⟨blind, trivial⟩
  exact (Keeps.refl one).append hr

theorem Keeps.block (header : String) (h : Keeps script extended) :
    Keeps [.block header script] [.block header extended] := by
  intro w w' below
  have opened := below.line (Text.trim header.toList ++ [' ', '\x7b'])
  exact ((h _ _ (opened.atDepth (· + 1))).atDepth (· - 1)).line ['\x7d']

theorem runAll_splice (w : Writer φ) (snippet : Snippet φ) :
    runAll w [.splice snippet] = runAll w (snippet.getD []) := by
  cases snippet <;> rfl

theorem Keeps.splice {snippet snippet' : Snippet φ}
    (h : Keeps (snippet.getD []) (snippet'.getD [])) :
    Keeps [.splice snippet] [.splice snippet'] := by
  intro w w' below
  rw [runAll_splice, runAll_splice]
  exact h w w' below

/-- Names of holes with code for them, which is kept by other code. -/
structure Slot (φ : Type) where
  name : String
  snippet : Snippet φ
  extended : Snippet φ
  keeps : Keeps (snippet.getD []) (extended.getD [])

namespace Slot

/-- The binding of the hole to its code. -/
def binding (s : Slot φ) : String × Argument φ := (s.name, .code s.snippet)

def extendedBinding (s : Slot φ) : String × Argument φ := (s.name, .code s.extended)

end Slot

theorem fillings_eq_map (bindings : List (String × Argument φ)) :
    fillings bindings = bindings.map fun b => (b.1, filling b.2) := by
  induction bindings with
  | nil => rfl
  | cons b bindings ih => rw [List.map_cons, ← ih]; rfl

theorem filling_code (snippet : Snippet φ) :
    filling (.code snippet) = (runAll {} (snippet.getD [])).toFilling := by
  cases snippet <;> rfl

theorem rel_lookup (fixed : List (String × Argument φ)) (slots : List (Slot φ)) (name : String) :
    Option.Rel Within ((fillings (fixed ++ slots.map Slot.binding)).lookup name)
      ((fillings (fixed ++ slots.map Slot.extendedBinding)).lookup name) := by
  rw [fillings_eq_map, fillings_eq_map]
  induction fixed with
  | nil =>
    induction slots with
    | nil => exact .none
    | cons s slots ih =>
      simp only [List.nil_append, List.map_cons, List.lookup_cons, Slot.binding,
        Slot.extendedBinding] at ih ⊢
      split
      · rw [filling_code, filling_code]
        exact .some (.code (s.keeps _ _ (.refl {})))
      · exact ih
  | cons b fixed ih =>
    simp only [List.cons_append, List.map_cons, List.lookup_cons]
    split
    · exact .some (.refl _)
    · exact ih

/-- Fixed names are bound to the same. -/
theorem lookup_fixed {fixed : List (String × Argument φ)} {name : String}
    (h : name ∈ fixed.map Prod.fst) (rest more : List (String × Argument φ)) :
    (fillings (fixed ++ rest)).lookup name = (fillings (fixed ++ more)).lookup name := by
  induction fixed with
  | nil => cases h
  | cons b fixed ih =>
    show List.lookup name ((b.1, filling b.2) :: fillings (fixed ++ rest))
      = List.lookup name ((b.1, filling b.2) :: fillings (fixed ++ more))
    rw [List.lookup_cons, List.lookup_cons]
    split
    · rfl
    · rename_i other
      exact ih ((List.mem_cons.mp h).resolve_left (beq_eq_false_iff_ne.mp other))

/-- A template in which the holes for code stand alone keeps what the code keeps. -/
theorem Keeps.template {text : String} (names : List String)
    (fixed : List (String × Argument φ)) (slots : List (Slot φ))
    (hn : fixed.map Prod.fst = names) (isolates : Template.IsolatesIn names text.toList) :
    Keeps [.template text (fixed ++ slots.map Slot.binding)]
      [.template text (fixed ++ slots.map Slot.extendedBinding)] := by
  intro w w' below
  rw [runAll, runAll, runAll, runAll, run, run]
  refine below.template (rel_lookup fixed slots) fun l hl name hole => ?_
  have listed : name ∈ (Template.parse l).filterMap Template.Segment.name? :=
    List.mem_filterMap.mpr ⟨_, hole, rfl⟩
  exact (isolates l hl name listed).imp_left fun h => lookup_fixed (hn ▸ h) _ _

/-- The second script only inserts: what the first writes is a part of the lines that the second
writes, and so is what it needs. If nothing goes wrong with the second, nothing does with the
first. -/
structure Inserts (script extended : List (Command φ)) : Prop where
  contents (w : Writer φ) : (Text.pieces (runAll w script).contents.toList).Sublist
    (Text.pieces (runAll w extended).contents.toList)
  requirements (w : Writer φ) :
    (runAll w script).requirements.Sublist (runAll w extended).requirements
  render : ∀ more, Cratewright.render extended = .ok more →
    ∃ out, Cratewright.render script = .ok out ∧
      (Text.pieces out.contents.toList).Sublist (Text.pieces more.contents.toList) ∧
      out.requirements.Sublist more.requirements

theorem Below.contents (h : Below w w') :
    (Text.pieces w.contents.toList).Sublist (Text.pieces w'.contents.toList) := by
  rw [Writer.contents, Writer.contents, String.toList_ofList, String.toList_ofList,
    Text.pieces_unlines, Text.pieces_unlines]
  exact (h.lines.flatMap _).append (.refl _)

theorem Keeps.inserts (h : Keeps script extended) : Inserts script extended where
  contents w := (h w w (.refl w)).contents
  requirements w := (h w w (.refl w)).requirements
  render more hm := by
    have below := h {} {} (.refl _)
    rw [Cratewright.render, finish] at hm ⊢
    cases he : (runAll {} extended).error with
    | some e =>
      rw [he] at hm
      cases hm
    | none =>
      rw [he] at hm
      cases hm
      rw [below.error he]
      exact ⟨_, rfl, below.contents, below.requirements⟩

end Writer

/-! ### Customizations -/

/-- What blind customizations say at a section is blind. -/
theorem Customization.isBlind_compose {σ : Type} {cs : List (Customization σ)}
    (blind : ∀ c ∈ cs, c.IsBlind) (s : σ) : (compose cs s).IsBlind := by
  rw [Snippet.IsBlind, getD_compose]
  exact Command.allBlind_flatMap fun c hc => blind c hc s

/-- What blind customizations say at a section is kept in what they say together with others. -/
theorem Customization.keeps_compose {σ : Type} {cs all : List (Customization σ)}
    (h : cs.Sublist all) (blind : ∀ c ∈ cs, c.IsBlind) (s : σ) :
    Writer.Keeps ((compose cs s).getD []) ((compose all s).getD []) := by
  rw [getD_compose, getD_compose]
  induction h with
  | slnil => exact Writer.keeps_nil []
  | cons c _ ih => exact (Writer.keeps_nil _).append (ih blind)
  | cons_cons c _ ih =>
    have first := blind c (List.mem_cons_self ..) s
    have rest := ih fun d hd => blind d (List.mem_cons_of_mem _ hd)
    exact (Writer.Keeps.refl first).append rest

end Cratewright
