/-
The crates that carried files name.

The text of a carried file is fixed, and so are the crate roots in it. The names of the
runtime crates that its fragment brings in are put together from a prefix, which settings may
choose. Only with the usual prefix do the two agree:

* `Text.crateRoots` — the crates that a text names;
* `Resource.mem_crateRoots_iff` — the crates that each file names;
* `Resource.bringsNamed_iff_and_listed` — a fragment brings in all crates that it names exactly
  for the usual prefix, but for one file that names no runtime crate; if it does, they all
  have entries in the manifest;
* `Resource.not_forall_bringsNamed` — so a fragment can name a crate that nothing brings in.
-/
import Mathlib.Data.List.Dedup
import Cratewright.Proofs.Crate.Manifest
import Cratewright.Proofs.Source.Lines
import Cratewright.Proofs.Source.Shallow
import Cratewright.Source.Resource

namespace Cratewright

/-! ### Crate roots in a text -/

namespace Text

/-- Whether a character can stand in a name. -/
def isNameChar (c : Char) : Bool := c.isAlphanum || c == '_'

/-- The first names of the paths in a text, where a path is names joined by two colons. The
text may start `inside` a path, and `name` is what has been read of a name, last character
first. -/
def rootsFrom (inside : Bool) (name : List Char) : List Char → List (List Char)
  | [] => []
  | c :: rest =>
    if isNameChar c then rootsFrom inside (c :: name) rest
    else if [':', ':'].isPrefixOf (c :: rest) then
      -- Colons without a name before them start a path, or go on with one.
      if inside || name.isEmpty then rootsFrom inside [] rest
      else name.reverse :: rootsFrom true [] rest
    else
      -- A path goes on after the second colon, and after the arguments of a type.
      rootsFrom (inside && name.isEmpty && c == ':' || ['>', ':', ':'].isPrefixOf (c :: rest))
        [] rest

/-- Whether the first name of a path is that of a crate which is not always there. Types have
names that start with a capital letter. -/
def isCrateRoot (name : List Char) : Bool :=
  ! name.head?.any Char.isUpper &&
    name != ['s', 't', 'd'] && name != ['c', 'o', 'r', 'e'] && name != ['c', 'r', 'a', 't', 'e']

/-- The names of crates in a text. -/
def crateRoots (text : List Char) : List String :=
  ((rootsFrom false [] text).filter isCrateRoot).map String.ofList

/-- A character that no name and no path goes on after. -/
structure EndsPaths (c : Char) : Prop where
  name : isNameChar c = false
  colon : c ≠ ':'
  bracket : c ≠ '>'

variable {c : Char}

theorem endsPaths_of_isBlank (h : isBlank c = true) : EndsPaths c := by
  have other {d : Char} (hd : isBlank d = false) : c ≠ d := by
    rintro rfl
    rw [hd] at h
    cases h
  refine ⟨?_, other (by decide), other (by decide)⟩
  have plain : c.isAlphanum = false := by
    have spelled : c.isAlphanum = (decide ('A'.val ≤ c.val ∧ c.val ≤ 'Z'.val) ||
        'a'.val ≤ c.val && c.val ≤ 'z'.val || '0'.val ≤ c.val && c.val ≤ '9'.val) := rfl
    have value : c.val.toNat = c.toNat := rfl
    simp only [isBlank, Bool.or_eq_true, Bool.and_eq_true, decide_eq_true_eq, beq_iff_eq] at h
    simp only [spelled, UInt32.le_iff_toNat_le, Bool.or_eq_false_iff, Bool.and_eq_false_iff,
      decide_eq_false_iff_not, value, Char.reduceVal, UInt32.reduceToNat]
    omega
  have underscore : (c == '_') = false := beq_eq_false_iff_ne.mpr (other (by decide))
  rw [isNameChar, plain, underscore]
  rfl

theorem isPrefixOf_append_cons {p : List Char} (hp : c ∉ p) (s rest : List Char) :
    p.isPrefixOf (s ++ c :: rest) = p.isPrefixOf s := by
  induction p generalizing s with
  | nil => rw [List.isPrefixOf_nil_left, List.isPrefixOf_nil_left]
  | cons d p ih =>
    have ⟨ne, hp⟩ : c ≠ d ∧ c ∉ p := by simpa using hp
    cases s with
    | nil => simp [List.isPrefixOf, Ne.symm ne]
    | cons e s => simp only [List.cons_append, List.isPrefixOf, ih hp]

/-- Where paths end, a text is read from anew. -/
theorem EndsPaths.rootsFrom_append_cons (h : EndsPaths c) (rest : List Char) :
    ∀ (inside : Bool) (name s : List Char),
      rootsFrom inside name (s ++ c :: rest) = rootsFrom inside name s ++ rootsFrom false [] rest
  | inside, name, [] => by
    have colon : (c == ':') = false := beq_eq_false_iff_ne.mpr h.colon
    have bracket : ('>' == c) = false := beq_eq_false_iff_ne.mpr h.bracket.symm
    simp [rootsFrom, h.name, h.colon.symm, colon, bracket, List.isPrefixOf]
  | inside, name, d :: s => by
    have two := isPrefixOf_append_cons (show c ∉ [':', ':'] by simp [h.colon]) (d :: s) rest
    have three := isPrefixOf_append_cons
      (show c ∉ ['>', ':', ':'] by simp [h.colon, h.bracket]) (d :: s) rest
    rw [List.cons_append] at two three
    rw [List.cons_append, rootsFrom, rootsFrom, two, three]
    split
    · exact h.rootsFrom_append_cons rest ..
    · split
      · split
        · exact h.rootsFrom_append_cons rest ..
        · exact congrArg (name.reverse :: ·) (h.rootsFrom_append_cons rest ..)
      · exact h.rootsFrom_append_cons rest ..

theorem EndsPaths.crateRoots_append_cons (h : EndsPaths c) (s rest : List Char) :
    crateRoots (s ++ c :: rest) = crateRoots s ++ crateRoots rest := by
  rw [crateRoots, h.rootsFrom_append_cons, List.filter_append, List.map_append]
  rfl

theorem crateRoots_append_blanks (s : List Char) {blanks : List Char}
    (h : ∀ c ∈ blanks, isBlank c = true) : crateRoots (s ++ blanks) = crateRoots s := by
  induction blanks generalizing s with
  | nil => rw [List.append_nil]
  | cons c blanks ih =>
    have nothing := ih [] fun d hd => h d (List.mem_cons_of_mem _ hd)
    rw [(endsPaths_of_isBlank (h c (List.mem_cons_self ..))).crateRoots_append_cons]
    exact (congrArg _ nothing).trans (List.append_nil _)

theorem crateRoots_trimEnd (s : List Char) : crateRoots (trimEnd s) = crateRoots s := by
  obtain ⟨dropped, hs, blanks⟩ := dropEndWhile_spec isBlank s
  conv_rhs => rw [hs, crateRoots_append_blanks _ blanks]
  rfl

theorem crateRoots_dropReturn (p : List Char) : crateRoots (dropReturn p) = crateRoots p := by
  rcases dropReturn_spec p with h | h
  · rw [← h]
  · conv_rhs => rw [h, crateRoots_append_blanks _ (List.forall_mem_singleton.mpr rfl)]

theorem lineByLine_crateRoots : LineByLine crateRoots :=
  ⟨rfl, (endsPaths_of_isBlank (by decide)).crateRoots_append_cons⟩

theorem flatMap_crateRoots_linesOfPieces : ∀ ps : List (List Char),
    (linesOfPieces ps).flatMap crateRoots = ps.flatMap crateRoots
  | [] => rfl
  | [p] => by cases p <;> rfl
  | p :: q :: ps => by
    rw [linesOfPieces.eq_def, List.flatMap_cons, List.flatMap_cons, crateRoots_dropReturn,
      flatMap_crateRoots_linesOfPieces (q :: ps)]

/-- The lines of a text name the crates that the text names. -/
theorem flatMap_crateRoots_lines (s : List Char) :
    (lines s).flatMap crateRoots = crateRoots s := by
  rw [lines, flatMap_crateRoots_linesOfPieces, lineByLine_crateRoots.flatMap_pieces]

end Text

/-- A text that is written as it is names the same crates where it has been written. -/
theorem FragmentKind.crateRoots_contents {φ : Type} [FragmentKind φ] {f : φ} {text : String}
    (body : body f = [.raw text]) :
    Text.crateRoots (written f).contents.toList = Text.crateRoots text.toList := by
  have lines : (written f).lines = (Text.lines text.toList).map Text.trimEnd := by
    rw [written, body, Writer.runAll, Writer.runAll, Writer.run, Writer.lines_writeLines]
    exact congrArg (List.map · _) (funext Writer.indented_zero)
  rw [Writer.contents, String.toList_ofList, Text.lineByLine_crateRoots.flatMap_unlines, lines,
    List.flatMap_map, ← Text.flatMap_crateRoots_lines text.toList]
  exact List.flatMap_congr fun l _ => Text.crateRoots_trimEnd l

/-! ### The crates that each file names -/

namespace Resource

/-- The crates that a file names. -/
def namedCrates : Resource → List String
  | awsQueryCompatibleErrors => ["http"]
  | hyperBodyWrapStream => ["aws_smithy_types", "bytes", "futures_core", "hyper"]
  | idempotencyToken => ["aws_smithy_types", "fastrand"]
  | jsonErrors => ["aws_smithy_json", "aws_smithy_types", "bytes", "http"]
  | restXmlUnwrappedErrors | restXmlWrappedErrors => ["aws_smithy_types", "aws_smithy_xml"]

theorem mem_crateRoots_of_spelled {r : Resource} {css : List (List Char)}
    (h : List.Forall₂ Template.Spelled r.lines css)
    (named : (css.flatMap Text.crateRoots).eraseDups = r.namedCrates) {root : String} :
    root ∈ Text.crateRoots r.text.toList ↔ root ∈ r.namedCrates := by
  rw [text, Template.toList_ofLines h, Text.lineByLine_crateRoots.flatMap_intercalate, ← named,
    List.mem_eraseDups]

theorem mem_crateRoots_text_iff (r : Resource) {root : String} :
    root ∈ Text.crateRoots r.text.toList ↔ root ∈ r.namedCrates := by
  cases r <;> refine mem_crateRoots_of_spelled (by repeat constructor) ?_ <;> decide +kernel

/-- The text that a file's fragment writes names exactly these crates. -/
theorem mem_crateRoots_iff (r : Resource) (c : RuntimeConfig) {root : String} :
    root ∈ Text.crateRoots (FragmentKind.written (r.fragment c)).contents.toList ↔
      root ∈ r.namedCrates := by
  have body : FragmentKind.body (r.fragment c) = [.raw r.text] := rfl
  rw [FragmentKind.crateRoots_contents body]
  exact r.mem_crateRoots_text_iff

end Resource

/-! ### The crates that fragments bring in -/

/-- Every crate that the fragment's text names is among the crates that it brings in. -/
def FragmentKind.BringsNamed {φ : Type} [FragmentKind φ] (f : φ) : Prop :=
  ∀ root ∈ Text.crateRoots (written f).contents.toList,
    ∃ d, .crate d ∈ extra f ∧ d.importName = root

/-- A crate that a fragment of the output brings in has an entry in the manifest. -/
theorem Run.Completes.exists_entryOf? {φ : Type} [FragmentKind φ] {log : List (Requirement φ)}
    {members : List φ} {out : RunOutput} (h : Completes log members out) {f : φ}
    (hf : f ∈ members) {d : CrateDependency} (hd : .crate d ∈ FragmentKind.extra f)
    (base : String) : ∃ entry, out.dependencies.entryOf? base d.scope d.name = some entry := by
  have asked : d ∈ Requirement.crates (Run.asked log members) := by
    refine Requirement.mem_crates_iff.mpr (List.mem_append_right _ ?_)
    exact List.mem_flatMap.mpr ⟨f, hf, List.mem_append_right _ hd⟩
  obtain ⟨s, hs, gathers⟩ :=
    DependencySet.exists_addAll (Requirement.crates (Run.asked log members))
  rw [h.dependencies, Except.ok.injEq] at hs
  obtain ⟨_, _, _, _, entry⟩ := gathers.entryOf? base asked
  exact ⟨_, hs ▸ entry⟩

namespace RuntimeConfig

/-- The name that code refers to a runtime crate by. -/
theorem toList_importName (c : RuntimeConfig) (name : String) (scope : Scope) :
    (c.runtimeCrate name scope).importName.toList =
      c.cratePrefix.toList.map (fun x => if x = '-' then '_' else x) ++
        ('-' :: name.toList).map fun x => if x = '-' then '_' else x := by
  show (String.ofList _).toList = _
  rw [String.toList_ofList, crateName, String.toList_append, String.toList_append,
    List.append_assoc, List.map_append]
  rfl

theorem importName_of_usual (c : RuntimeConfig) (h : c.cratePrefix = "aws") (name : String)
    (scope : Scope) : (c.runtimeCrate name scope).importName =
      CrateDependency.defaultImportName ("aws" ++ "-" ++ name) := by
  rw [← h]
  rfl

theorem importName_smithyTypes_iff (c : RuntimeConfig) :
    c.smithyTypes.importName = "aws_smithy_types" ↔ c.cratePrefix = "aws" := by
  constructor
  · intro h
    have joined := c.toList_importName "smithy-types" .compile
    rw [show (c.runtimeCrate "smithy-types" .compile).importName = _ from h] at joined
    have start : ['a', 'w', 's'] =
        c.cratePrefix.toList.map fun x => if x = '-' then '_' else x :=
      List.append_inj_left' joined rfl
    -- There is no underscore in what comes out, so there was no hyphen.
    have kept : c.cratePrefix.toList.map (fun x => if x = '-' then '_' else x)
        = c.cratePrefix.toList := by
      refine (List.map_congr_left fun x hx => ?_).trans (List.map_id _)
      refine if_neg fun hyphen => ?_
      have underscore : '_' ∈ ['a', 'w', 's'] := by
        rw [start]
        exact List.mem_map.mpr ⟨x, hx, if_pos hyphen⟩
      exact absurd underscore (by decide)
    exact String.toList_injective (kept.symm.trans start.symm)
  · intro h
    rw [smithyTypes, c.importName_of_usual h]
    decide

/-- Other runtime crates end in other letters. -/
theorem importName_ne_smithyTypes (c : RuntimeConfig) {name : String} (scope : Scope)
    (h : (('-' :: name.toList).map fun x => if x = '-' then '_' else x).getLast? ≠ some 's') :
    (c.runtimeCrate name scope).importName ≠ "aws_smithy_types" := by
  intro same
  have joined := c.toList_importName name scope
  rw [same] at joined
  refine h ?_
  have last := congrArg List.getLast? joined
  rw [List.getLast?_append_of_ne_nil _ (by simp)] at last
  exact last.symm

end RuntimeConfig

namespace Resource

/-- Code refers to the crates of a file by their usual names. -/
theorem usual_of_mem_crates {r : Resource} {c : RuntimeConfig} {d : CrateDependency}
    (h : d ∈ r.crates c) :
    d.scope = .compile ∧ d.importName = CrateDependency.defaultImportName d.name := by
  cases r <;> simp only [crates, List.mem_cons, List.not_mem_nil, or_false] at h <;>
    rcases h with rfl | rfl | rfl | rfl <;> exact ⟨rfl, rfl⟩

theorem crate_mem_extra_iff {r : Resource} {c : RuntimeConfig} {d : CrateDependency} :
    .crate d ∈ FragmentKind.extra (r.fragment c) ↔ d ∈ r.crates c := by
  show Requirement.crate d ∈ (r.crates c).map .crate ↔ _
  rw [List.mem_map]
  constructor
  · rintro ⟨_, hd, same⟩
    cases same
    exact hd
  · exact fun hd => ⟨d, hd, rfl⟩

/-- Only with the usual prefix is a crate named that all runtime types are in. -/
theorem cratePrefix_eq_of_smithyTypes {r : Resource} {c : RuntimeConfig} {d : CrateDependency}
    (hd : d ∈ r.crates c) (named : d.importName = "aws_smithy_types") : c.cratePrefix = "aws" := by
  have json : c.smithyJson.importName ≠ "aws_smithy_types" :=
    c.importName_ne_smithyTypes .compile (by decide)
  have xml : c.smithyXml.importName ≠ "aws_smithy_types" :=
    c.importName_ne_smithyTypes .compile (by decide)
  have others : ∀ e ∈ [Known.http, Known.bytes, Known.fastrand, Known.futuresCore,
      Known.hyperWithStream], e.importName ≠ "aws_smithy_types" := by decide
  have types := c.importName_smithyTypes_iff
  cases r <;> simp only [crates, List.mem_cons, List.not_mem_nil, or_false] at hd <;>
    rcases hd with rfl | rfl | rfl | rfl <;> simp_all

/-- With the usual prefix, every crate that a file names comes with it. -/
theorem exists_of_mem_namedCrates {r : Resource} {c : RuntimeConfig}
    (h : c.cratePrefix = "aws" ∨ r = .awsQueryCompatibleErrors) {root : String}
    (named : root ∈ r.namedCrates) : ∃ d ∈ r.crates c, d.importName = root := by
  refine List.mem_map.mp ?_
  rcases h with usual | rfl
  · have types : c.smithyTypes.importName = "aws_smithy_types" :=
      c.importName_smithyTypes_iff.mpr usual
    have json : c.smithyJson.importName = "aws_smithy_json" := by
      rw [RuntimeConfig.smithyJson, c.importName_of_usual usual]
      decide
    have xml : c.smithyXml.importName = "aws_smithy_xml" := by
      rw [RuntimeConfig.smithyXml, c.importName_of_usual usual]
      decide
    have all : r.namedCrates ⊆ (r.crates c).map (·.importName) := by
      cases r <;> simp only [crates, List.map_cons, List.map_nil, types, json, xml] <;> decide
    exact all named
  · rw [List.mem_singleton.mp named]
    exact List.mem_cons_of_mem _ (List.mem_cons_self ..)

/-- **Fragments name crates that they bring in only with the usual prefix.**  The fragment of
a file brings in every crate that its text names exactly if the runtime crates have the usual
prefix, or the file is the one that names none of them. A run that writes such a fragment
lists each crate that is named in its manifest. -/
theorem bringsNamed_iff_and_listed (r : Resource) (c : RuntimeConfig) :
    (FragmentKind.BringsNamed (r.fragment c) ↔
      c.cratePrefix = "aws" ∨ r = .awsQueryCompatibleErrors) ∧
    (FragmentKind.BringsNamed (r.fragment c) → ∀ log members out,
      Run.Completes log members out → r.fragment c ∈ members → ∀ base,
      ∀ root ∈ Text.crateRoots (FragmentKind.written (r.fragment c)).contents.toList,
        ∃ name entry, CrateDependency.defaultImportName name = root ∧
          out.dependencies.entryOf? base .compile name = some entry) := by
  refine ⟨⟨fun brings => ?_, fun h root hr => ?_⟩,
    fun brings log members out completes mem base root hr => ?_⟩
  · -- Every other file names the crate of the runtime types, under its usual name.
    by_cases query : r = .awsQueryCompatibleErrors
    · exact .inr query
    · have types : "aws_smithy_types" ∈ r.namedCrates := by
        cases r <;> first | exact absurd rfl query | decide
      obtain ⟨d, hd, named⟩ := brings _ ((r.mem_crateRoots_iff c).mpr types)
      exact .inl (cratePrefix_eq_of_smithyTypes (crate_mem_extra_iff.mp hd) named)
  · obtain ⟨d, hd, named⟩ := exists_of_mem_namedCrates h ((r.mem_crateRoots_iff c).mp hr)
    exact ⟨d, crate_mem_extra_iff.mpr hd, named⟩
  · obtain ⟨d, hd, named⟩ := brings root hr
    obtain ⟨scope, usual⟩ := usual_of_mem_crates (crate_mem_extra_iff.mp hd)
    obtain ⟨entry, listed⟩ := completes.exists_entryOf? mem hd base
    rw [scope] at listed
    exact ⟨d.name, entry, usual.symm.trans named, listed⟩

/-- The fragment for errors in JSON, written by a run on its own. -/
theorem bringsNamed_iff_and_listed_jsonErrors :
    ∃ out members, Run.Completes [.fragment (jsonErrors.fragment {})] members out ∧
      jsonErrors.fragment {} ∈ members ∧ ∀ root ∈ jsonErrors.namedCrates,
        ∃ name entry, CrateDependency.defaultImportName name = root ∧
          out.dependencies.entryOf? "." .compile name = some entry := by
  obtain ⟨brings, listed⟩ := bringsNamed_iff_and_listed jsonErrors {}
  obtain ⟨r, _, gathers, _⟩ := Run.exists_replay [.register (jsonErrors.fragment {})]
  obtain ⟨out, members, _, completes⟩ := gathers.exists_completes
    (fun f hf => List.mem_singleton.mp hf ▸ jsonErrors.isShallow_fragment {})
    r.finish?_eq_some_finish
  have mem : jsonErrors.fragment {} ∈ members :=
    completes.mem_of_first (List.find?_cons_of_pos (beq_self_eq_true _))
  refine ⟨out, members, completes, mem, fun root hr => ?_⟩
  exact listed (brings.mpr (.inl rfl)) _ _ _ completes mem "." root
    ((mem_crateRoots_iff ..).mpr hr)

/-- A fragment can name a crate that nothing brings in. -/
theorem not_forall_bringsNamed :
    ¬ ∀ (r : Resource) (c : RuntimeConfig), FragmentKind.BringsNamed (r.fragment c) := by
  intro brings
  have types : "aws_smithy_types" ∈ jsonErrors.namedCrates := by decide
  obtain ⟨d, hd, named⟩ :=
    brings jsonErrors { cratePrefix := "acme" } _ ((mem_crateRoots_iff ..).mpr types)
  have usual := cratePrefix_eq_of_smithyTypes (crate_mem_extra_iff.mp hd) named
  exact absurd usual (by decide)

end Resource

end Cratewright
