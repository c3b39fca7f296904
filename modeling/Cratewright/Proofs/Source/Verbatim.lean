/-
Which number signs of a template count.

Only the number signs that the template itself spells out are read. A template whose number signs
are all doubled is written like code. And a text that fills a hole is copied as it is: the output is
one text with gaps that the text is put into, whatever number signs and braces stand in it:

* `Text.dedent_literal` — doubling the number signs does not change how a text is cut into lines;
* `Writer.template_literal` — a template without holes is written like code;
* `Writer.Steady` — writers that depend on a text only as far as it is put into gaps;
* `Writer.Steady.template` — templates with a name that is bound to the text lead to such writers;
* `Writer.run_template_verbatim` — both facts about any template.
-/
import Cratewright.Proofs.Source.Embedding
import Cratewright.Proofs.Text.Gaps

namespace Cratewright

variable {φ : Type}

/-! ### Doubled number signs -/

namespace Template

theorem literal_append (s t : List Char) : literal (s ++ t) = literal s ++ literal t :=
  List.flatMap_append

theorem literal_cons_of_ne {c : Char} (h : c ≠ '#') (s : List Char) :
    literal (c :: s) = c :: literal s := by
  rw [literal, List.flatMap_cons, if_neg h]
  rfl

theorem literal_cons_sign (s : List Char) : literal ('#' :: s) = '#' :: '#' :: literal s :=
  rfl

theorem literal_eq_nil_iff {s : List Char} : literal s = [] ↔ s = [] := by
  cases s with
  | nil => exact iff_of_true rfl rfl
  | cons c s =>
    refine iff_of_false ?_ (List.cons_ne_nil c s)
    by_cases sign : c = '#'
    · rw [sign, literal_cons_sign]
      exact List.cons_ne_nil _ _
    · rw [literal_cons_of_ne sign]
      exact List.cons_ne_nil _ _

theorem literal_of_blanks {s : List Char} (h : ∀ c ∈ s, Text.isBlank c = true) : literal s = s := by
  induction s with
  | nil => rfl
  | cons c s ih =>
    have ne : c ≠ '#' := by
      rintro rfl
      exact absurd (h '#' (List.mem_cons_self ..)) (by decide)
    rw [literal_cons_of_ne ne, ih fun d hd => h d (List.mem_cons_of_mem _ hd)]

theorem isBlankText_literal (s : List Char) : Text.isBlankText (literal s) = Text.isBlankText s := by
  rw [Text.isBlankText, literal, List.all_flatMap, Text.isBlankText]
  congr 1
  funext c
  by_cases sign : c = '#'
  · subst sign
    decide
  · simp [sign]

end Template

namespace Text

open Template

theorem pieces_literal (s : List Char) : pieces (literal s) = (pieces s).map literal := by
  induction s with
  | nil => rfl
  | cons c s ih =>
    obtain ⟨p, ps, hp, hc⟩ := pieces_cons c s
    rw [hp, List.map_cons] at ih
    rw [hc]
    by_cases sign : c = '#'
    · subst sign
      have rest : pieces ('#' :: literal s) = ('#' :: literal p) :: ps.map literal := by
        rw [pieces, ih]
        rfl
      rw [literal_cons_sign, pieces, rest]
      rfl
    · rw [literal_cons_of_ne sign, pieces, ih]
      split
      · rfl
      · rw [List.map_cons, literal_cons_of_ne sign]

/-- The carriage return at the end of a line is no number sign. -/
theorem dropReturn_literal (p : List Char) : dropReturn (literal p) = literal (dropReturn p) := by
  rcases List.eq_nil_or_concat p with rfl | ⟨init, c, rfl⟩
  · rfl
  · have last : dropReturn (literal [c]) = literal (dropReturn [c]) := by
      by_cases sign : c = '#'
      · subst sign
        rfl
      · rw [literal_cons_of_ne sign]
        show dropReturn [c] = _
        rw [dropReturn]
        split
        · rfl
        · rw [literal_cons_of_ne sign]
          rfl
    have some : literal [c] ≠ [] := mt literal_eq_nil_iff.mp (List.cons_ne_nil c [])
    rw [List.concat_eq_append, literal_append, dropReturn_append_of_ne_nil _ some, last,
      dropReturn_append_of_ne_nil _ (List.cons_ne_nil c []), literal_append]

theorem linesOfPieces_literal : ∀ ps : List (List Char),
    linesOfPieces (ps.map literal) = (linesOfPieces ps).map literal
  | [] => rfl
  | [p] => by
    by_cases empty : p = []
    · subst empty
      rfl
    · have full : literal p ≠ [] := mt literal_eq_nil_iff.mp empty
      simp [linesOfPieces, empty, full]
  | p :: q :: ps => by
    have rest := linesOfPieces_literal (q :: ps)
    calc linesOfPieces ((p :: q :: ps).map literal)
        = dropReturn (literal p) :: linesOfPieces ((q :: ps).map literal) := rfl
      _ = literal (dropReturn p) :: (linesOfPieces (q :: ps)).map literal := by
        rw [dropReturn_literal, rest]
      _ = (linesOfPieces (p :: q :: ps)).map literal := rfl

theorem lines_literal (s : List Char) : lines (literal s) = (lines s).map literal := by
  rw [lines, pieces_literal, linesOfPieces_literal]
  rfl

theorem trimLines_literal (ls : List (List Char)) :
    trimLines (ls.map literal) = (trimLines ls).map literal := by
  have same : isBlankText ∘ literal = isBlankText := funext isBlankText_literal
  rw [trimLines, List.dropWhile_map, same, ← List.map_reverse, List.dropWhile_map, same,
    ← List.map_reverse]
  rfl

/-- The blanks at the start of a line, and its text with the number signs doubled. -/
theorem literal_eq_append (l : List Char) :
    literal l = leadingBlanks l ++ literal (trimStart l) := by
  have blanks := literal_of_blanks fun c (hc : c ∈ leadingBlanks l) => isBlank_of_mem_leadingBlanks hc
  calc literal l = literal (leadingBlanks l ++ trimStart l) := by
        rw [leadingBlanks_append_trimStart]
    _ = leadingBlanks l ++ literal (trimStart l) := by rw [literal_append, blanks]

theorem leadingBlanks_literal (l : List Char) : leadingBlanks (literal l) = leadingBlanks l := by
  induction l with
  | nil => rfl
  | cons c l ih =>
    by_cases sign : c = '#'
    · subst sign
      rfl
    · rw [literal_cons_of_ne sign]
      rw [leadingBlanks, List.takeWhile_cons, ← leadingBlanks, ih, leadingBlanks, leadingBlanks,
        List.takeWhile_cons]

theorem margin_literal (ls : List (List Char)) : margin (ls.map literal) = margin ls := by
  have same : (fun l => ! isBlankText l) ∘ literal = fun l => ! isBlankText l := by
    funext l
    exact congrArg _ (isBlankText_literal l)
  rw [margin, List.filter_map, same, List.map_map]
  simp only [Function.comp_def, leadingBlanks_literal]
  rfl

/-- The margin ends before the text of a line, so what it leaves of the line is the same. -/
theorem dropBytes_literal {ls : List (List Char)} {l : List Char} (hl : l ∈ ls) :
    dropBytes (margin ls) (literal l) = literal (dropBytes (margin ls) l) := by
  cases blank : isBlankText l with
  | true =>
    -- A cut of blanks leaves blanks, or nothing if it ends inside one of them.
    have left := List.all_eq_true.mp (isBlankText_dropBytes (margin ls) blank)
    rw [literal_of_blanks (List.all_eq_true.mp blank), literal_of_blanks left]
  | false =>
    have within := margin_le hl blank
    have cut := dropBytes?_append within (trimStart l)
    rw [leadingBlanks_append_trimStart] at cut
    rw [literal_eq_append, dropBytes, dropBytes?_append within, dropBytes, cut]
    cases left : dropBytes? (margin ls) (leadingBlanks l) with
    | none => rfl
    | some after =>
      have blanks : ∀ c ∈ after, isBlank c = true := by
        intro c hc
        obtain ⟨before, parts, -⟩ := dropBytes?_eq_some_iff.mp left
        refine isBlank_of_mem_leadingBlanks (l := l) ?_
        rw [parts]
        exact List.mem_append_right _ hc
      show after ++ literal (trimStart l) = literal (after ++ trimStart l)
      rw [literal_append, literal_of_blanks blanks]

theorem dedent_literal (s : List Char) : dedent (literal s) = (dedent s).map literal := by
  let body := trimLines (lines s)
  have cut : trimLines (lines (literal s)) = body.map literal := by
    rw [lines_literal, trimLines_literal]
  show (trimLines (lines (literal s))).map (dropBytes (margin (trimLines (lines (literal s))))) = _
  rw [cut, margin_literal, List.map_map]
  show _ = (body.map (dropBytes (margin body))).map literal
  rw [List.map_map]
  exact List.map_congr_left fun l hl => dropBytes_literal hl

end Text

namespace Writer

/-- Lines without holes are written as they stand. -/
theorem template_literal (fillings : List (String × Filling φ)) (w : Writer φ)
    {ls : List (List Char)} (feed : ∀ l ∈ ls, '\n' ∉ l) :
    w.template fillings (ls.map Template.literal) = w.writeLines ls := by
  induction ls generalizing w with
  | nil => rfl
  | cons l ls ih =>
    have line : templateLine fillings w (Template.literal l) = w.line l := by
      have whole := @templateLine_literal φ fillings w l []
        (by simpa using feed l (List.mem_cons_self ..)) rfl
      rw [List.append_nil, List.append_nil] at whole
      exact whole
    show (templateLine fillings w (Template.literal l)).template fillings _ = _
    rw [line]
    exact ih (w.line l) fun k hk => feed k (List.mem_cons_of_mem _ hk)

end Writer

/-! ### Characters of a template -/

theorem Template.mem_of_char_mem_parseFrom {c : Char} {l : List Char} {skip : Nat}
    (h : .char c ∈ Template.parseFrom skip l) : c ∈ l := by
  induction l generalizing skip with
  | nil => cases skip <;> cases h
  | cons d rest ih =>
    have later {skip : Nat} (h : .char c ∈ Template.parseFrom skip rest) : c ∈ d :: rest :=
      List.mem_cons_of_mem d (ih h)
    cases skip with
    | succ skip => exact later h
    | zero =>
      -- A character stands for the one that is read here, or comes from the rest of the line.
      have here {skip : Nat} (h : .char c ∈ .char d :: Template.parseFrom skip rest) :
          c ∈ d :: rest := by
        rcases List.mem_cons.mp h with same | h
        · cases same
          exact List.mem_cons_self ..
        · exact later h
      rw [parseFrom.eq_def] at h
      dsimp only at h
      split at h
      · rename_i sign
        rw [← sign] at h
        split at h
        · exact here h
        · split at h
          · rcases List.mem_cons.mp h with same | h
            · cases same
            · exact later h
          · exact here h
        · exact here h
      · exact here h

theorem Filling.mem_of_mem_under {f : Filling φ} {leading : List Char} {c : Char}
    (h : c ∈ f.under leading) : c = '\n' ∨ c ∈ leading ∨ c ∈ f.text := by
  rw [under] at h
  split at h
  · obtain ⟨p, ps, hp⟩ := List.exists_cons_of_ne_nil (Text.pieces_ne_nil f.text)
    rw [hp] at h
    have own : ∀ q ∈ p :: ps, c ∈ q → c ∈ f.text :=
      fun q hq hc => Text.mem_of_mem_pieces (hp ▸ hq) hc
    rcases List.mem_append.mp h with h | h
    · exact .inr (.inr (own p (List.mem_cons_self ..) h))
    · obtain ⟨q, hq, h⟩ := List.mem_flatMap.mp h
      rcases List.mem_cons.mp h with feed | h
      · exact .inl feed
      · split at h
        · cases h
        · rcases List.mem_append.mp h with h | h
          · exact .inr (.inl h)
          · exact .inr (.inr (own q (List.mem_cons_of_mem p hq) h))
  · exact .inr (.inr h)

namespace Writer

open Text

/-! ### A name that is bound to a text -/

/-- What names are bound to, one of them to a text. -/
def fillingsWith (before : List (String × Argument φ)) (name : String)
    (after : List (String × Argument φ)) (v : List Char) : List (String × Filling φ) :=
  fillings (before ++ (name, .text (String.ofList v)) :: after)

section OneText

variable {A : Char → Prop} (before : List (String × Argument φ)) (name : String)
  (after : List (String × Argument φ))

/-- A name stands for the text, or for the same whatever the text is. -/
theorem lookup_fillingsWith (other : String) :
    (∀ v, (fillingsWith before name after v).lookup other = some { text := v }) ∨
    ∃ o, (∀ v, (fillingsWith before name after v).lookup other = o) ∧
      ∀ f, o = some f → ∃ b ∈ before ++ after, f = filling b.2 := by
  have found {f : Filling φ} (hf : (fillings after).lookup other = some f) :
      ∃ b ∈ after, f = filling b.2 := by
    obtain ⟨ls, rs, parts, -⟩ := List.lookup_eq_some_iff.mp hf
    have mem : (other, f) ∈ fillings after := by
      rw [parts]
      exact List.mem_append_right _ (List.mem_cons_self ..)
    rw [fillings_eq_map] at mem
    obtain ⟨b, hb, same⟩ := List.mem_map.mp mem
    exact ⟨b, hb, (congrArg Prod.snd same).symm⟩
  induction before with
  | nil =>
    by_cases own : other = name
    · refine .inl fun v => ?_
      show List.lookup other ((name, filling (.text (String.ofList v))) :: fillings after) = _
      rw [List.lookup_cons, own, beq_self_eq_true]
      show some (filling (.text (String.ofList v))) = _
      rw [filling, String.toList_ofList]
    · refine .inr ⟨(fillings after).lookup other, fun v => ?_, fun f hf => found hf⟩
      show List.lookup other ((name, filling (.text (String.ofList v))) :: fillings after) = _
      rw [List.lookup_cons, beq_eq_false_iff_ne.mpr own]
  | cons b before ih =>
    -- An earlier binding hides the text if it is one of the same name.
    by_cases own : other = b.1
    · refine .inr ⟨some (filling b.2), fun v => ?_, fun f hf => ?_⟩
      · show List.lookup other ((b.1, filling b.2) :: fillingsWith before name after v) = _
        rw [List.lookup_cons, own, beq_self_eq_true]
      · cases hf
        exact ⟨b, List.mem_cons_self .., rfl⟩
    · have next (v : List Char) : (fillingsWith (b :: before) name after v).lookup other
          = (fillingsWith before name after v).lookup other := by
        show List.lookup other ((b.1, filling b.2) :: fillingsWith before name after v) = _
        rw [List.lookup_cons, beq_eq_false_iff_ne.mpr own]
      rcases ih with same | ⟨o, same, known⟩
      · exact .inl fun v => (next v).trans (same v)
      · refine .inr ⟨o, fun v => (next v).trans (same v), fun f hf => ?_⟩
        obtain ⟨d, hd, given⟩ := known f hf
        exact ⟨d, List.mem_cons_of_mem b hd, given⟩

/-- What a line needs and reports does not depend on the text. -/
theorem expand_fillingsWith (leading : List Char) (v v' : List Char) (w : Writer φ)
    (segments : List Template.Segment) :
    (expand (fillingsWith before name after v) leading w segments).1
      = (expand (fillingsWith before name after v') leading w segments).1 := by
  induction segments generalizing w with
  | nil => rfl
  | cons s segments ih =>
    cases s with
    | char c => exact ih w
    | hole other =>
      have first : (w.fill (fillingsWith before name after v) leading other).1
          = (w.fill (fillingsWith before name after v') leading other).1 := by
        rw [fill, fill]
        rcases lookup_fillingsWith before name after other with own | ⟨o, same, -⟩
        · rw [own v, own v']
        · rw [same v, same v']
      show (expand _ leading (w.fill _ leading other).1 segments).1
        = (expand _ leading (w.fill _ leading other).1 segments).1
      rw [first]
      exact ih _

variable (others : ∀ b ∈ before ++ after, ∀ c ∈ (filling b.2).text, A c) (feed : A '\n')

include others feed

theorem uniform_replaced {leading : List Char} (hl : ∀ c ∈ leading, A c)
    {s : Template.Segment} (hs : ∀ c, s = .char c → A c) :
    Uniform A fun v => replaced (fillingsWith before name after v) leading s := by
  cases s with
  | char c => exact uniform_const (by simpa using hs c rfl)
  | hole other =>
    rcases lookup_fillingsWith before name after other with own | ⟨o, same, known⟩
    · refine uniform_self.congr fun v hv => ?_
      have one : pieces v = [v] := by
        rw [pieces_eq_splitAt, splitAt_of_not_mem hv.feed]
      rw [replaced, own v]
      show v = Filling.under _ leading
      rw [Filling.under, if_pos rfl, one]
      exact (List.append_nil v).symm
    · cases o with
      | none =>
        refine (uniform_const (s := []) (by simp)).congr fun v _ => ?_
        rw [replaced, same v]
      | some f =>
        obtain ⟨b, hb, rfl⟩ := known f rfl
        have within : ∀ c ∈ (filling b.2).under leading, A c := by
          intro c hc
          rcases Filling.mem_of_mem_under hc with rfl | hc | hc
          · exact feed
          · exact hl c hc
          · exact others b hb c hc
        refine (uniform_const within).congr fun v _ => ?_
        rw [replaced, same v]

end OneText

/-! ### Writers that depend on a text -/

/-- A writer that depends on a text only as far as the text is put into gaps of its lines. -/
def Steady (A : Char → Prop) (f : List Char → Writer φ) : Prop :=
  ∃ (base : Writer φ) (ls : List Char → List (List Char)),
    UniformLines A ls ∧ ∀ v, IsInline v → f v = { base with lines := ls v }

section Steady

variable {A : Char → Prop} {f k : List Char → Writer φ}

theorem steady_const {w : Writer φ} (h : ∀ l ∈ w.lines, ∀ c ∈ l, A c) : Steady A fun _ => w :=
  ⟨w, fun _ => w.lines, uniformLines_const h, fun _ _ => rfl⟩

/-- A line with a gap is not empty, whatever is put in, so it is set in like others. -/
theorem uniform_hung {leading : List Char} (h : ∀ c ∈ leading, A c) {g : Gapped}
    (hg : g.Within A) : Uniform A fun v => hung leading (Gapped.fill v g) := by
  by_cases empty : g = []
  · subst empty
    exact uniform_const (by simp)
  · have text : Uniform A fun v => Gapped.fill v g := ⟨g, hg, fun _ _ => rfl⟩
    refine ((uniform_const h).append text).congr fun v hv => ?_
    obtain ⟨c, rest, some⟩ :=
      List.exists_cons_of_ne_nil (mt (Gapped.fill_eq_nil_iff hv.ne_nil).mp empty)
    rw [some]
    rfl

variable (blank : A ' ')

include blank

theorem within_blanks (depth : Nat) : ∀ c ∈ blanks depth, A c := by
  intro c hc
  rw [eq_of_mem_blanks hc]
  exact blank

theorem uniform_indented (depth : Nat) {g : Gapped} (hg : g.Within A) :
    Uniform A fun v => indented depth (Gapped.fill v g) := by
  obtain ⟨j, hj, trimmed⟩ := exists_trimEnd_fill g hg
  refine (uniform_hung (within_blanks blank depth) hj).congr fun v hv => ?_
  rw [indented_eq_hung, trimmed v hv]

theorem Steady.extend (hf : Steady A f) (hk : Steady A k) :
    Steady A fun v => (f v).extend (k v) := by
  obtain ⟨base, ls, hls, written⟩ := hf
  obtain ⟨more, ks, hks, added⟩ := hk
  refine ⟨base.extend more, fun v => ls v ++ (ks v).map (hung (blanks base.depth)),
    hls.append (hks.map fun g hg => uniform_hung (within_blanks blank _) hg), fun v hv => ?_⟩
  show (f v).extend (k v) = _
  rw [written v hv, added v hv]
  rfl

variable {before after : List (String × Argument φ)} (name : String)
  (others : ∀ b ∈ before ++ after, ∀ c ∈ (filling b.2).text, A c) (feed : A '\n')

include others feed

/-- Whether the line is left out does not depend on the text: it is not blank. -/
theorem steady_templateLine {l : List Char} (hl : ∀ c ∈ l, A c) :
    Steady A fun v => templateLine (fillingsWith before name after v) {} l := by
  let segments := Template.parse l
  let leading := leadingBlanks l
  let text (v : List Char) : List Char :=
    segments.flatMap (replaced (fillingsWith before name after v) leading)
  have own : ∀ c ∈ leading, A c := fun c hc => hl c ((List.takeWhile_subset _) hc)
  have uniform : Uniform A text := by
    refine Uniform.flatMap fun s hs => ?_
    refine uniform_replaced before name after others feed own ?_
    rintro c rfl
    exact hl c (Template.mem_of_char_mem_parseFrom hs)
  obtain ⟨empty, same⟩ := uniform.isBlankText
  let base : Writer φ := (expand (fillingsWith before name after []) leading {} segments).1
  have fresh : base.lines = [] := (lines_expand _ leading {} segments).1
  -- Filling the holes changes what is needed and reported, which is the same for every text.
  have expanded (v : List Char) :
      expand (fillingsWith before name after v) leading {} segments = (base, text v) :=
    Prod.ext (expand_fillingsWith before name after leading v [] {} segments)
      (lines_expand _ leading {} segments).2
  have line (v : List Char) : templateLine (fillingsWith before name after v) {} l
      = if segments.any (·.isHole) && isBlankText (text v) then base
        else base.writeLines (pieces (text v)) := by
    show (if segments.any (·.isHole) && isBlankText (expand _ leading {} segments).2 then _
      else _) = _
    rw [expanded v]
  cases skipped : segments.any (·.isHole) && empty with
  | true =>
    refine ⟨base, fun _ => [], uniformLines_const (by simp), fun v hv => ?_⟩
    show templateLine (fillingsWith before name after v) {} l = _
    rw [line v, same v hv, skipped, if_pos rfl, ← fresh]
  | false =>
    refine ⟨base, fun v => (pieces (text v)).map (indented base.depth),
      uniform.pieces.map fun g hg => uniform_indented blank _ hg, fun v hv => ?_⟩
    show templateLine (fillingsWith before name after v) {} l = _
    rw [line v, same v hv, skipped, if_neg Bool.false_ne_true, writeLines_eq, fresh,
      List.nil_append]

/-- Line by line, a template puts the text into gaps. -/
theorem Steady.template (hf : Steady A f) {ls : List (List Char)} (hls : ∀ l ∈ ls, ∀ c ∈ l, A c) :
    Steady A fun v => (f v).template (fillingsWith before name after v) ls := by
  induction ls generalizing f with
  | nil => exact hf
  | cons l ls ih =>
    have ⟨hl, hrest⟩ := List.forall_mem_cons.mp hls
    -- What has been written so far is continued by what the line leaves in a fresh writer.
    have line (v : List Char) : templateLine (fillingsWith before name after v) (f v) l
        = (f v).extend (templateLine (fillingsWith before name after v) {} l) := by
      rw [← extend_templateLine, extend_fresh]
    have first := hf.extend blank (steady_templateLine blank name others feed hl)
    have whole := ih first hrest
    simp only [← line] at whole
    exact whole

end Steady

/-! ### The output -/

/-- The characters that can stand around a text that is put into a template. -/
inductive Around (w : Writer φ) (text : String) (others : List (String × Argument φ)) :
    Char → Prop where
  | blank : Around w text others ' '
  | feed : Around w text others '\n'
  | written {c : Char} : c ∈ w.contents.toList → Around w text others c
  | template {c : Char} : c ∈ text.toList → Around w text others c
  | other {c : Char} {b : String × Argument φ} :
      b ∈ others → c ∈ (filling b.2).text → Around w text others c

/-- A text that can be put in and that starts with a character which does not stand around it. -/
structure IsFresh (w : Writer φ) (text : String) (others : List (String × Argument φ))
    (marker : String) : Prop where
  inline : IsInline marker.toList
  written : ∀ c, marker.toList.head? = some c → c ∉ w.contents.toList
  template : ∀ c, marker.toList.head? = some c → c ∉ text.toList
  other : ∀ c, marker.toList.head? = some c → ∀ b ∈ others, c ∉ (filling b.2).text

theorem IsFresh.not_around {w : Writer φ} {text : String} {others : List (String × Argument φ)}
    {marker : String} (h : IsFresh w text others marker) {m : Char}
    (hm : marker.toList.head? = some m) : ¬ Around w text others m := by
  intro around
  cases around with
  | blank => exact absurd (h.inline.isBlank_head hm) (by decide)
  | feed => exact absurd (h.inline.isBlank_head hm) (by decide)
  | written mem => exact h.written _ hm mem
  | template mem => exact h.template _ hm mem
  | other hb mem => exact h.other _ hm _ hb mem

/-- What a template writes with a name bound to a text: the text as it is, in the same places. -/
structure Copies (w : Writer φ) (text : String) (before : List (String × Argument φ))
    (name : String) (after : List (String × Argument φ)) : Prop where
  /-- There is one text with gaps that the text is put into; what else is recorded does not depend
  on the text. -/
  gaps : ∃ (g : Gapped) (rs : List (Requirement φ)) (e : Option Error),
    ∀ v : String, IsInline v.toList →
      (run w (.template text (before ++ (name, .text v) :: after))).contents.toList
          = Gapped.fill v.toList g ∧
        (run w (.template text (before ++ (name, .text v) :: after))).requirements = rs ∧
        (run w (.template text (before ++ (name, .text v) :: after))).error = e
  /-- So the text can as well be put in later, in the place of a marker. -/
  marker : ∀ v marker : String, IsInline v.toList → IsFresh w text (before ++ after) marker →
    (run w (.template text (before ++ (name, .text v) :: after))).contents.toList
      = replaceAll marker.toList v.toList
        (run w (.template text (before ++ (name, .text marker) :: after))).contents.toList

theorem copies (w : Writer φ) (text : String) (before : List (String × Argument φ)) (name : String)
    (after : List (String × Argument φ)) : Copies w text before name after := by
  let out (v : String) : Writer φ := run w (.template text (before ++ (name, .text v) :: after))
  have start : Steady (Around w text (before ++ after)) fun _ => w := by
    refine steady_const fun l hl c hc => .written ?_
    rw [toList_contents, unlines]
    exact List.mem_flatMap.mpr ⟨l, hl, List.mem_append_left _ hc⟩
  obtain ⟨base, ls, uniform, written⟩ := start.template .blank name
    (fun b hb c hc => .other hb hc) .feed
    (fun l hl c hc => .template (mem_of_mem_dedent hl hc))
  obtain ⟨g, within, fills⟩ := uniform.unlines .feed
  have result (v : String) (hv : IsInline v.toList) : out v = { base with lines := ls v.toList } := by
    rw [← written v.toList hv]
    show run w _ = w.template (fillingsWith before name after v.toList) (dedent text.toList)
    rw [fillingsWith, String.ofList_toList]
    rfl
  have contents (v : String) (hv : IsInline v.toList) :
      (out v).contents.toList = Gapped.fill v.toList g := by
    rw [result v hv, toList_contents, ← fills v.toList hv]
  constructor
  · refine ⟨g, base.requirements, base.error, fun v hv => ⟨contents v hv, ?_, ?_⟩⟩
    · show (out v).requirements = _
      rw [result v hv]
    · show (out v).error = _
      rw [result v hv]
  · intro v marker hv fresh
    obtain ⟨m, rest, some⟩ := List.exists_cons_of_ne_nil fresh.inline.ne_nil
    have head : marker.toList.head? = Option.some m := by
      rw [some]
      rfl
    -- What stands around the gaps does not start the marker, so it is found in the gaps only.
    have apart : g.Within (· ≠ m) := by
      rintro c hc rfl
      exact fresh.not_around head (within c hc)
    have put := contents marker fresh.inline
    show (out v).contents.toList = replaceAll marker.toList v.toList (out marker).contents.toList
    rw [contents v hv, put, some, replaceAll_fill v.toList g apart]

/-- A template with doubled number signs only, whatever names are bound, is written like code, which
needs nothing and reports nothing. -/
theorem run_literal (w : Writer φ) (t : String) (bindings : List (String × Argument φ)) :
    run w (.template (String.ofList (Template.literal t.toList)) bindings) = run w (.code t) := by
  calc run w (.template (String.ofList (Template.literal t.toList)) bindings)
      = w.template (fillings bindings) (dedent (Template.literal t.toList)) := by
        rw [run, String.toList_ofList]
    _ = w.template (fillings bindings) ((dedent t.toList).map Template.literal) := by
        rw [dedent_literal]
    _ = w.writeLines (dedent t.toList) :=
        template_literal _ w fun l hl => feed_not_mem_of_mem_dedent hl
    _ = run w (.code t) := by rw [run]

/-- **Only the number signs of a template are read.**  A template whose number signs are all doubled
leaves the same writer behind as code, which needs nothing and reports no error. And whatever
template is run in whatever writer, a text that a name is bound to is copied: it is put into the
gaps of one text, and what is needed and reported does not depend on it. So the output is the one
with a fresh marker in its place, with the marker replaced afterwards. -/
theorem run_template_verbatim (w : Writer φ) :
    (∀ (t : String) (bindings : List (String × Argument φ)),
      run w (.template (String.ofList (Template.literal t.toList)) bindings) = run w (.code t) ∧
        (run w (.code t)).requirements = w.requirements ∧ (run w (.code t)).error = w.error) ∧
    ∀ (text : String) (before : List (String × Argument φ)) (name : String)
      (after : List (String × Argument φ)), Copies w text before name after := by
  refine ⟨fun t bindings => ⟨run_literal w t bindings, ?_, ?_⟩, copies w⟩
  · rw [run, writeLines_eq]
  · rw [run, writeLines_eq]

/-- A template of a constant. -/
def constTemplate : String := "const #\x7bname\x7d: &str = \"#\x7bvalue\x7d\"; // #1 ##2"

theorem run_template_verbatim_const :
    let command (v : String) : Command Fragment :=
      .template constTemplate ([("name", .text "CLOCK")] ++ ("value", .text v) :: [])
    IsInline "#\x7bother\x7d ## #".toList ∧
      IsFresh moduleWriter constTemplate [("name", .text "CLOCK")] "@" ∧
      (run moduleWriter (command "#\x7bother\x7d ## #")).contents.toList
        = replaceAll ['@'] "#\x7bother\x7d ## #".toList
          (run moduleWriter (command "@")).contents.toList ∧
      (run moduleWriter (command "#\x7bother\x7d ## #")).contents = Text.ofLines
        ["mod m \x7b", "    const CLOCK: &str = \"#\x7bother\x7d ## #\"; // #1 #2", ""] := by
  have value : IsInline "#\x7bother\x7d ## #".toList := ⟨by decide, by decide, by decide⟩
  have fresh : IsFresh moduleWriter constTemplate [("name", .text "CLOCK")] "@" := by
    refine ⟨⟨by decide, by decide, by decide⟩, ?_, ?_, ?_⟩ <;> rintro c ⟨⟩
    · decide
    · decide
    · intro b hb
      cases List.mem_singleton.mp hb
      decide
  have both := run_template_verbatim moduleWriter
  exact ⟨value, fresh, (both.2 constTemplate [("name", .text "CLOCK")] "value" []).marker
    "#\x7bother\x7d ## #" "@" value fresh, by rfl⟩

end Writer

end Cratewright
