/-
Blind scripts are independent of where they are run.

A writer can be continued by what stands in another one: the lines of the other follow, set in
by the depth of the first. Carrying out a command commutes with this, unless the command looks
at what has been written. So a blind script leaves in any writer what it leaves in a fresh one:

* `Writer.extend_run`, `Writer.extend_runAll` — commands and scripts in a continued writer;
* `Writer.runAll_eq_extend` — a script in any writer and in a fresh one;
* `Writer.isTidy_runAll` — the lines that a flat script writes hold no line feed and end in no
  blank;
* `Writer.run_splice_places` — what is said at a place, as texts.
-/
import Cratewright.Proofs.Source.Insertion

namespace Cratewright

variable {φ : Type}

/-! ### Lines set in -/

namespace Writer

/-- The blanks that a line at a depth starts with. -/
def blanks (depth : Nat) : List Char := (List.replicate depth indentation).flatten

theorem blanks_add (m n : Nat) : blanks (m + n) = blanks m ++ blanks n := by
  rw [blanks, List.replicate_add, List.flatten_append]
  rfl

theorem blanks_eq_replicate (depth : Nat) : blanks depth = List.replicate (4 * depth) ' ' := by
  induction depth with
  | zero => rfl
  | succ depth ih =>
    rw [blanks_add, ih, show 4 * (depth + 1) = 4 * depth + 4 by omega, List.replicate_add]
    rfl

theorem eq_of_mem_blanks {c : Char} {depth : Nat} (h : c ∈ blanks depth) : c = ' ' := by
  rw [blanks_eq_replicate] at h
  exact List.eq_of_mem_replicate h

theorem indented_eq_hung (depth : Nat) (text : List Char) :
    indented depth text = hung (blanks depth) (Text.trimEnd text) :=
  rfl

theorem hung_nil_left (l : List Char) : hung [] l = l := by
  cases l <;> rfl

/-- Only blanks that stand before a text matter to it. -/
theorem hung_hung (outer inner l : List Char) :
    hung outer (hung inner l) = hung (outer ++ inner) l := by
  cases l with
  | nil => rfl
  | cons c l => cases inner <;> simp [hung]

theorem hung_blanks_indented (m n : Nat) (text : List Char) :
    hung (blanks m) (indented n text) = indented (m + n) text := by
  rw [indented_eq_hung, indented_eq_hung, hung_hung, blanks_add]

/-! ### Writers continued -/

/-- The first writer, continued by what stands in the second. -/
def extend (w v : Writer φ) : Writer φ where
  lines := w.lines ++ v.lines.map (hung (blanks w.depth))
  depth := w.depth + v.depth
  requirements := w.requirements ++ v.requirements
  error := w.error.or v.error

variable (w v : Writer φ)

theorem extend_fresh : w.extend {} = w := by
  simp [extend]

theorem extend_fail (e : Error) : (w.extend v).fail e = w.extend (v.fail e) := by
  simp [extend, fail]

theorem extend_require (rs : List (Requirement φ)) :
    (w.extend v).require rs = w.extend (v.require rs) := by
  simp [extend, require]

/-- Lines are all that writing lines changes. -/
theorem writeLines_eq (ls : List (List Char)) :
    w.writeLines ls = { w with lines := w.lines ++ ls.map (indented w.depth) } := by
  induction ls generalizing w with
  | nil => simp [writeLines]
  | cons l ls ih =>
    show (w.line l).writeLines ls = _
    rw [ih]
    show { w with lines := w.lines ++ [indented w.depth l] ++ ls.map (indented w.depth) } = _
    rw [List.append_assoc]
    rfl

theorem extend_writeLines (ls : List (List Char)) :
    (w.extend v).writeLines ls = w.extend (v.writeLines ls) := by
  simp [writeLines_eq, extend, hung_blanks_indented]

theorem extend_line (text : List Char) : (w.extend v).line text = w.extend (v.line text) :=
  extend_writeLines w v [text]

/-- The writer at another depth. -/
def atDepth (depth : Nat) : Writer φ := { w with depth }

theorem extend_atDepth (depth : Nat) :
    (w.extend v).atDepth (w.depth + depth) = w.extend (v.atDepth depth) :=
  rfl

theorem depth_runAll (script : List (Command φ)) : (runAll w script).depth = w.depth :=
  (below_runAll script w).depth.symm

/-- A block is its header, its body one level deeper, and the closing brace. -/
theorem run_block (header : String) (body : List (Command φ)) :
    run w (.block header body)
      = ((runAll ((w.line (Text.trim header.toList ++ [' ', '\x7b'])).atDepth (w.depth + 1))
          body).atDepth w.depth).line ['\x7d'] := by
  let inner := runAll
    ((w.line (Text.trim header.toList ++ [' ', '\x7b'])).atDepth (w.depth + 1)) body
  have deep : inner.depth = w.depth + 1 := depth_runAll ..
  show (inner.atDepth (inner.depth - 1)).line ['\x7d'] = _
  rw [deep, Nat.add_sub_cancel]

/-! ### Templates in continued writers -/

section Templates

variable (fillings : List (String × Filling φ))

theorem extend_fill (leading : List Char) (name : String) :
    (w.extend v).fill fillings leading name
      = (w.extend (v.fill fillings leading name).1, (v.fill fillings leading name).2) := by
  rw [fill, fill]
  cases fillings.lookup name with
  | none => rw [extend_fail]
  | some f =>
    dsimp only
    split
    · rw [extend_require]
    · rw [extend_require, extend_fail]

theorem extend_expand (leading : List Char) (segments : List Template.Segment) :
    expand fillings leading (w.extend v) segments
      = (w.extend (expand fillings leading v segments).1,
          (expand fillings leading v segments).2) := by
  induction segments generalizing v with
  | nil => rfl
  | cons s segments ih =>
    cases s with
    | char c => rw [expand, expand, ih]
    | hole name => simp only [expand, extend_fill, ih]

theorem extend_templateLine (l : List Char) :
    templateLine fillings (w.extend v) l = w.extend (templateLine fillings v l) := by
  rw [templateLine, templateLine, extend_expand]
  dsimp only
  split
  · rfl
  · rw [extend_writeLines]

theorem extend_template (ls : List (List Char)) :
    (w.extend v).template fillings ls = w.extend (v.template fillings ls) := by
  induction ls generalizing v with
  | nil => rfl
  | cons l ls ih =>
    show (templateLine fillings (w.extend v) l).template fillings ls = _
    rw [extend_templateLine, ih]
    rfl

end Templates

/-! ### Scripts in continued writers -/

mutual

/-- A blind command carried out in a continued writer continues it by what the command does. -/
theorem extend_run (w : Writer φ) : ∀ (c : Command φ), c.IsBlind → ∀ v : Writer φ,
    run (w.extend v) c = w.extend (run v c)
  | .code text, _, v => by
    rw [run, run]
    exact extend_writeLines ..
  | .raw text, _, v => by
    rw [run, run]
    exact extend_writeLines ..
  | .template text bindings, _, v => by
    rw [run, run]
    exact extend_template ..
  | .blankLine, _, v => extend_line ..
  | .block header body, blind, v => by
    -- The body starts one level deeper, in both writers.
    have deeper : (w.extend v).depth + 1 = w.depth + (v.depth + 1) := Nat.add_assoc ..
    rw [run_block, run_block, deeper, extend_line, extend_atDepth,
      extend_runAll w body blind _, ← extend_line, ← extend_atDepth]
    rfl
  | .docs text, _, v => by
    rw [run, run]
    exact extend_writeLines ..
  | .attribute text, _, v => extend_line ..
  | .splice none, _, v => rfl
  | .splice (some script), blind, v => extend_runAll w script blind v
  | .require r, _, v => extend_require ..
  | .fail e, _, v => extend_fail ..
  | .look choose, blind, v => blind.elim
termination_by structural c => c

/-- A blind script run in a continued writer continues it by what the script does. -/
theorem extend_runAll (w : Writer φ) : ∀ (script : List (Command φ)), Command.AllBlind script →
    ∀ v : Writer φ, runAll (w.extend v) script = w.extend (runAll v script)
  | [], _, v => rfl
  | c :: script, blind, v => by
    rw [runAll, runAll, extend_run w c blind.1 v]
    exact extend_runAll w script blind.2 (run v c)
termination_by structural script => script

end

mutual

/-- In a given writer, a command that looks does what some blind script does. -/
theorem exists_blind_run : ∀ (c : Command φ) (w : Writer φ),
    ∃ script, Command.AllBlind script ∧ run w c = runAll w script
  | .code text, w => ⟨[.code text], ⟨trivial, trivial⟩, rfl⟩
  | .raw text, w => ⟨[.raw text], ⟨trivial, trivial⟩, rfl⟩
  | .template text bindings, w => ⟨[.template text bindings], ⟨trivial, trivial⟩, rfl⟩
  | .blankLine, w => ⟨[.blankLine], ⟨trivial, trivial⟩, rfl⟩
  | .block header body, w => by
    let opened := w.line (Text.trim header.toList ++ [' ', '\x7b'])
    obtain ⟨script, blind, same⟩ := exists_blind_runAll body (opened.atDepth (w.depth + 1))
    refine ⟨[.block header script], ⟨blind, trivial⟩, ?_⟩
    rw [runAll, runAll, run_block, run_block, same]
  | .docs text, w => ⟨[.docs text], ⟨trivial, trivial⟩, rfl⟩
  | .attribute text, w => ⟨[.attribute text], ⟨trivial, trivial⟩, rfl⟩
  | .splice none, w => ⟨[], trivial, rfl⟩
  | .splice (some script), w => exists_blind_runAll script w
  | .require r, w => ⟨[.require r], ⟨trivial, trivial⟩, rfl⟩
  | .fail e, w => ⟨[.fail e], ⟨trivial, trivial⟩, rfl⟩
  | .look choose, w => exists_blind_runAll (choose w.view) w
termination_by structural c => c

/-- In a given writer, every script does what some blind script does. -/
theorem exists_blind_runAll : ∀ (script : List (Command φ)) (w : Writer φ),
    ∃ trace, Command.AllBlind trace ∧ runAll w script = runAll w trace
  | [], w => ⟨[], trivial, rfl⟩
  | c :: script, w => by
    -- What the rest sees is the writer that the first command leaves.
    obtain ⟨first, blind, hfirst⟩ := exists_blind_run c w
    obtain ⟨rest, blind', hrest⟩ := exists_blind_runAll script (run w c)
    exact ⟨first ++ rest, blind.append blind', by rw [runAll, runAll_append, hrest, hfirst]⟩
termination_by structural script => script

end

/-- A blind script continues any writer by what it leaves in a fresh one. -/
theorem runAll_eq_extend {script : List (Command φ)} (blind : Command.AllBlind script) :
    runAll w script = w.extend (runAll {} script) := by
  have continued := extend_runAll w script blind {}
  rw [extend_fresh] at continued
  exact continued

/-- Whatever a script looks at, it writes after what was there. -/
theorem exists_lines_runAll (script : List (Command φ)) :
    ∃ more, (runAll w script).lines = w.lines ++ more := by
  obtain ⟨trace, blind, same⟩ := exists_blind_runAll script w
  exact ⟨_, congrArg lines (same.trans (runAll_eq_extend w blind))⟩

end Writer

/-! ### Lines as they are written -/

/-- A line with no line feed in it and no blank at its end. -/
structure Text.IsTidy (l : List Char) : Prop where
  feed : '\n' ∉ l
  ending : ∀ c, l.getLast? = some c → isBlank c = false

mutual

/-- The headers of blocks and the attributes that a command writes stand on one line each, and
the command does not look at the writer. What fills the holes of a template is cut into lines in
any case, and is written on its own. -/
def Command.IsFlat : Command φ → Prop
  | .block header body => '\n' ∉ header.toList ∧ Command.AllFlat body
  | .attribute text => '\n' ∉ text.toList
  | .splice (some script) => Command.AllFlat script
  | .splice none => True
  | .code _ => True
  | .raw _ => True
  | .template _ _ => True
  | .blankLine => True
  | .docs _ => True
  | .require _ => True
  | .fail _ => True
  | .look _ => False

/-- All commands of a script are flat. -/
def Command.AllFlat : List (Command φ) → Prop
  | [] => True
  | c :: script => c.IsFlat ∧ Command.AllFlat script

end

/-- What is said at a place is flat. -/
def Snippet.IsFlat (s : Snippet φ) : Prop := Command.AllFlat (s.getD [])

mutual

theorem Command.IsFlat.isBlind : ∀ {c : Command φ}, c.IsFlat → c.IsBlind
  | .block _ _, flat => Command.AllFlat.allBlind flat.2
  | .splice (some _), flat => Command.AllFlat.allBlind flat
  | .splice none, _ => trivial
  | .code _, _ => trivial
  | .raw _, _ => trivial
  | .template _ _, _ => trivial
  | .blankLine, _ => trivial
  | .docs _, _ => trivial
  | .attribute _, _ => trivial
  | .require _, _ => trivial
  | .fail _, _ => trivial
  | .look _, flat => flat
termination_by structural c => c

/-- A flat script is blind. -/
theorem Command.AllFlat.allBlind : ∀ {script : List (Command φ)}, Command.AllFlat script →
    Command.AllBlind script
  | [], _ => trivial
  | _ :: _, flat => ⟨flat.1.isBlind, Command.AllFlat.allBlind flat.2⟩
termination_by structural script => script

end

namespace Writer

/-- All lines that have been written are tidy. -/
def IsTidy (w : Writer φ) : Prop := ∀ l ∈ w.lines, Text.IsTidy l

variable {w : Writer φ}

theorem isTidy_indented (depth : Nat) {text : List Char} (h : '\n' ∉ text) :
    Text.IsTidy (indented depth text) := by
  obtain ⟨dropped, parts, -⟩ := Text.dropEndWhile_spec Text.isBlank text
  have feed : '\n' ∉ Text.trimEnd text := by
    intro mem
    exact h (parts ▸ List.mem_append_left dropped mem)
  rw [indented_eq_hung]
  cases kept : Text.trimEnd text with
  | nil => exact ⟨List.not_mem_nil, fun c hc => by cases hc⟩
  | cons c rest =>
    rw [kept] at feed
    refine ⟨?_, fun d hd => ?_⟩
    · show '\n' ∉ blanks depth ++ c :: rest
      intro mem
      rcases List.mem_append.mp mem with mem | mem
      · exact absurd (eq_of_mem_blanks mem) (by decide)
      · exact feed mem
    · refine @Text.not_of_getLast?_dropEndWhile Text.isBlank text d ?_
      show (Text.trimEnd text).getLast? = some d
      rw [kept, ← hd]
      show _ = (blanks depth ++ c :: rest).getLast?
      rw [List.getLast?_append_of_ne_nil _ (List.cons_ne_nil c rest)]

theorem IsTidy.writeLines (h : w.IsTidy) {ls : List (List Char)} (feed : ∀ l ∈ ls, '\n' ∉ l) :
    (w.writeLines ls).IsTidy := by
  intro l hl
  rw [lines_writeLines, List.mem_append] at hl
  rcases hl with hl | hl
  · exact h l hl
  · obtain ⟨text, ht, rfl⟩ := List.mem_map.mp hl
    exact isTidy_indented w.depth (feed text ht)

theorem IsTidy.line (h : w.IsTidy) {text : List Char} (feed : '\n' ∉ text) :
    (w.line text).IsTidy := by
  have one : ∀ l ∈ [text], '\n' ∉ l := by simpa using feed
  exact h.writeLines one

/-- Each line of a template is cut at the feeds that its holes have brought in. -/
theorem IsTidy.template (h : w.IsTidy) (fillings : List (String × Filling φ))
    (ls : List (List Char)) : (w.template fillings ls).IsTidy := by
  induction ls generalizing w with
  | nil => exact h
  | cons l ls ih =>
    refine ih ?_
    have same := (lines_expand fillings (Text.leadingBlanks l) w (Template.parse l)).1
    have expanded : (expand fillings (Text.leadingBlanks l) w (Template.parse l)).1.IsTidy := by
      intro k hk
      rw [same] at hk
      exact h k hk
    rw [templateLine]
    dsimp only
    split
    · exact expanded
    · exact expanded.writeLines fun p hp => Text.feed_not_mem_of_mem_pieces hp

mutual

/-- A flat command writes tidy lines. -/
theorem isTidy_run : ∀ (c : Command φ) {w : Writer φ}, c.IsFlat → w.IsTidy → (run w c).IsTidy
  | .code text, w, _, h => by
    rw [run]
    exact h.writeLines fun l hl => Text.feed_not_mem_of_mem_dedent hl
  | .raw text, w, _, h => by
    rw [run]
    exact h.writeLines fun l hl => Text.feed_not_mem_of_mem_lines hl
  | .template text bindings, w, _, h => by
    rw [run]
    exact IsTidy.template h (fillings bindings) _
  | .blankLine, w, _, h => h.line List.not_mem_nil
  | .block header body, w, flat, h => by
    obtain ⟨hh, hb⟩ := flat
    have trimmed : '\n' ∉ Text.trim header.toList := fun mem => hh (Text.mem_of_mem_trim mem)
    have opened : (w.line (Text.trim header.toList ++ [' ', '\x7b'])).IsTidy :=
      h.line (by simpa using trimmed)
    have closing : '\n' ∉ ['\x7d'] := by decide
    have inside : IsTidy (runAll ((w.line _).atDepth (w.depth + 1)) body) :=
      isTidy_runAll body hb opened
    have closed : IsTidy ((runAll ((w.line _).atDepth (w.depth + 1)) body).atDepth w.depth) :=
      inside
    rw [run_block]
    exact closed.line closing
  | .docs text, w, _, h => by
    rw [run]
    refine h.writeLines fun l hl => ?_
    obtain ⟨k, hk, rfl⟩ := List.mem_map.mp hl
    have feed := Text.feed_not_mem_of_mem_dedent hk
    split
    · decide
    · simpa using feed
  | .attribute text, w, flat, h => by
    have feed : '\n' ∉ text.toList := flat
    exact h.line (by simpa using feed)
  | .splice none, w, _, h => h
  | .splice (some script), w, flat, h => isTidy_runAll script flat h
  | .require r, w, _, h => h
  | .fail e, w, _, h => h
  | .look choose, w, flat, h => flat.elim
termination_by structural c => c

/-- A flat script writes tidy lines. -/
theorem isTidy_runAll : ∀ (script : List (Command φ)) {w : Writer φ}, Command.AllFlat script →
    w.IsTidy → (runAll w script).IsTidy
  | [], _, _, h => h
  | c :: script, _, flat, h => isTidy_runAll script flat.2 (isTidy_run c flat.1 h)
termination_by structural script => script

end

/-- What a flat script writes on its own is tidy. -/
theorem isTidy_alone {script : List (Command φ)} (flat : Command.AllFlat script) :
    (runAll {} script).IsTidy :=
  isTidy_runAll script flat fun l hl => by cases hl

end Writer

/-! ### Texts set in -/

/-- A text of which each line that is not empty is set in by blanks. -/
def Text.setIn (leading s : List Char) : List Char :=
  ['\n'].intercalate ((pieces s).map fun l => if l.isEmpty then [] else leading ++ l)

theorem Text.setIn_unlines (leading : List Char) {ls : List (List Char)}
    (feed : ∀ l ∈ ls, '\n' ∉ l) :
    setIn leading (unlines ls) = unlines (ls.map (Writer.hung leading)) := by
  rw [setIn, pieces_unlines, flatMap_pieces_of_feedless feed, List.map_append,
    ← intercalate_concat_nil]
  rfl

/-- A text is empty or ends in a line feed, and none of its lines ends in a blank. -/
structure Text.IsClean (s : List Char) : Prop where
  ending : s = [] ∨ ∃ body, s = body ++ ['\n']
  lines : ∀ l ∈ pieces s, ∀ c, l.getLast? = some c → isBlank c = false

namespace Writer

theorem toList_contents (w : Writer φ) : w.contents.toList = Text.unlines w.lines :=
  String.toList_ofList

theorem IsTidy.isClean {w : Writer φ} (h : w.IsTidy) : Text.IsClean w.contents.toList := by
  rw [toList_contents]
  constructor
  · rcases List.eq_nil_or_concat w.lines with none | ⟨ls, l, some⟩
    · rw [none]
      exact .inl rfl
    · refine .inr ⟨Text.unlines ls ++ l, ?_⟩
      rw [some, List.concat_eq_append, Text.unlines, List.flatMap_append, List.flatMap_singleton,
        ← List.append_assoc]
      rfl
  · intro l hl c hc
    rw [Text.pieces_unlines, Text.flatMap_pieces_of_feedless fun k hk => (h k hk).feed,
      List.mem_append, List.mem_singleton] at hl
    rcases hl with hl | rfl
    · exact (h l hl).ending c hc
    · cases hc

/-- What a writer holds after something was written in it that leaves a fresh one in the state
`alone`: the text stands below what was there, set in by the depth; what is needed is needed as
well, and the first error stays. -/
structure Places (w alone after : Writer φ) : Prop where
  contents : after.contents.toList
    = w.contents.toList ++ Text.setIn (List.replicate (4 * w.depth) ' ') alone.contents.toList
  depth : after.depth = w.depth
  requirements : after.requirements = w.requirements ++ alone.requirements
  error : after.error = w.error.or alone.error

theorem places_extend (w : Writer φ) {v : Writer φ} (tidy : v.IsTidy) (top : v.depth = 0) :
    Places w v (w.extend v) where
  contents := by
    rw [toList_contents, toList_contents, toList_contents, ← blanks_eq_replicate,
      Text.setIn_unlines _ fun l hl => (tidy l hl).feed]
    exact List.flatMap_append
  depth := congrArg (w.depth + ·) top
  requirements := rfl
  error := rfl

/-- What is said at a place says the same in every writer, and as whole lines without blanks at
their ends. -/
theorem run_splice_places (w : Writer φ) (s : Snippet φ) (flat : s.IsFlat) :
    Places w (run {} (.splice s)) (run w (.splice s)) ∧
      Text.IsClean (run {} (.splice s)).contents.toList := by
  have alone (v : Writer φ) : run v (.splice s) = runAll v (s.getD []) := runAll_splice v s
  have tidy := isTidy_alone flat
  rw [alone, alone, runAll_eq_extend w flat.allBlind]
  exact ⟨places_extend w tidy (depth_runAll {} _), tidy.isClean⟩

/-- A documented structure whose fields fill a hole, and an error. -/
def pairSnippet : Snippet Fragment :=
  some [.docs "Two bytes.",
    .block "struct Pair" [
      .template "#{fields}" [("fields", .code (some [.code "a: u8,\n\nb: u8,", .blankLine]))]],
    .fail (.unknownShape "a#B")]

/-- A writer inside a module, with an error of its own. -/
def moduleWriter : Writer Fragment where
  lines := [['m', 'o', 'd', ' ', 'm', ' ', '\x7b']]
  depth := 1
  error := some (.unknownShape "c#D")

theorem run_splice_places_pair :
    pairSnippet.IsFlat ∧
      (Places moduleWriter (run {} (.splice pairSnippet)) (run moduleWriter (.splice pairSnippet)) ∧
        Text.IsClean (run {} (.splice pairSnippet)).contents.toList) ∧
      (run moduleWriter (.splice pairSnippet)).contents = Text.ofLines
        ["mod m \x7b", "    /// Two bytes.", "    struct Pair \x7b", "        a: u8,", "",
          "        b: u8,", "    \x7d", ""] := by
  have flat : pairSnippet.IsFlat := by
    refine ⟨trivial, ⟨?_, trivial, trivial⟩, trivial, trivial⟩
    decide
  refine ⟨flat, run_splice_places moduleWriter pairSnippet flat, ?_⟩
  rfl

end Writer

end Cratewright
