/-
Values are read as they were printed.

A value without floating-point numbers is read as it was printed, if its numbers fit 64 bits and
it nests no more containers than the reader allows. All that the reader answers with is of this
kind, and stays so when its objects are sorted:

* `Json.readValue_print` — what is printed is read;
* `Json.fits_readValue` — what is read fits;
* `Json.canonical_canonical`, `Json.Fits.canonical` — values with their objects sorted.
-/
import Cratewright.Outcome
import Cratewright.Proofs.Json.Tokens
import Cratewright.Proofs.SortedMap

namespace Cratewright

namespace SortedMap

variable {κ ν : Type} [Ord κ] [Std.TransOrd κ] [Std.LawfulEqOrd κ] [DecidableEq κ]

theorem ofList_entries (m : SortedMap κ ν) : ofList m.entries = m :=
  ofList_eq fun _ _ => find?_eq_some_iff.symm

theorem mem_of_mem_entries_ofList {l : List (κ × ν)} {e : κ × ν} (h : e ∈ (ofList l).entries) :
    e ∈ l :=
  mem_of_find?_ofList (find?_eq_some_iff.mpr h)

end SortedMap

namespace Json

/-! ### Values that lose nothing -/

mutual

/-- No number in the value is a floating-point number. -/
def FloatFree : Json → Prop
  | null => True
  | flag _ => True
  | number n => n.IsWhole
  | text _ => True
  | list items => ItemsFloatFree items
  | object fields => FieldsFloatFree fields

/-- No number in the items is a floating-point number. -/
def ItemsFloatFree : List Json → Prop
  | [] => True
  | v :: rest => v.FloatFree ∧ ItemsFloatFree rest

/-- No number in the fields is a floating-point number. -/
def FieldsFloatFree : List (String × Json) → Prop
  | [] => True
  | (_, v) :: rest => v.FloatFree ∧ FieldsFloatFree rest

end

theorem floatFree_list {items : List Json} : (list items).FloatFree ↔ ∀ v ∈ items, v.FloatFree := by
  show ItemsFloatFree items ↔ _
  induction items with
  | nil => simp [ItemsFloatFree]
  | cons v rest ih => rw [ItemsFloatFree, List.forall_mem_cons, ih]

theorem floatFree_object {fields : List (String × Json)} :
    (object fields).FloatFree ↔ ∀ e ∈ fields, e.2.FloatFree := by
  show FieldsFloatFree fields ↔ _
  induction fields with
  | nil => simp [FieldsFloatFree]
  | cons e rest ih => rw [FieldsFloatFree, List.forall_mem_cons, ih]

/-- The whole numbers of the value fit 64 bits, and at most `depth` containers are nested. -/
def Fits : Nat → Json → Prop
  | _, null => True
  | _, flag _ => True
  | _, number n => n.InRange
  | _, text _ => True
  | 0, list _ => False
  | 0, object _ => False
  | depth + 1, list items => ∀ v ∈ items, Fits depth v
  | depth + 1, object fields => ∀ e ∈ fields, Fits depth e.2

theorem fits_list {depth : Nat} {items : List Json} :
    Fits (depth + 1) (list items) ↔ ∀ v ∈ items, Fits depth v := by
  rw [Fits]

theorem fits_object {depth : Nat} {fields : List (String × Json)} :
    Fits (depth + 1) (object fields) ↔ ∀ e ∈ fields, Fits depth e.2 := by
  rw [Fits]

/-- The value is no container. -/
def IsScalar : Json → Prop
  | list _ => False
  | object _ => False
  | _ => True

theorem isScalar_of_fits_zero {v : Json} (h : Fits 0 v) : v.IsScalar := by
  cases v with
  | list items =>
    rw [Fits] at h
    exact h
  | object fields =>
    rw [Fits] at h
    exact h
  | _ => trivial

theorem fits_text (depth : Nat) (s : String) : Fits depth (text s) := by
  cases depth <;> trivial

/-- The value is printed and read without loss. -/
structure Faithful (depth : Nat) (v : Json) : Prop where
  fits : Fits depth v
  free : v.FloatFree

theorem faithful_text (depth : Nat) (s : String) : Faithful depth (text s) :=
  ⟨fits_text depth s, trivial⟩

theorem faithful_list {depth : Nat} {items : List Json} (h : ∀ v ∈ items, Faithful depth v) :
    Faithful (depth + 1) (list items) :=
  ⟨fits_list.mpr fun v hv => (h v hv).fits, floatFree_list.mpr fun v hv => (h v hv).free⟩

theorem faithful_object {depth : Nat} {fields : List (String × Json)}
    (h : ∀ e ∈ fields, Faithful depth e.2) : Faithful (depth + 1) (object fields) :=
  ⟨fits_object.mpr fun e he => (h e he).fits, floatFree_object.mpr fun e he => (h e he).free⟩

/-! ### Printing -/

theorem printItems_eq (items : List Json) : printItems items = commas (items.map print) := by
  induction items with
  | nil => rfl
  | cons v rest ih =>
    cases rest with
    | nil => simp [printItems, commas]
    | cons w rest =>
      rw [printItems, ih, List.map_cons, List.map_cons, List.map_cons, commas_cons, commas_cons]
      · rfl
      · simp

theorem printFields_eq (fields : List (String × Json)) :
    printFields fields = commas (fields.map fun e => printField e.1 e.2.print) := by
  induction fields with
  | nil => rfl
  | cons e rest ih =>
    cases rest with
    | nil => simp [printFields, printField, commas]
    | cons d rest =>
      rw [printFields, ih, List.map_cons, commas_cons]
      · simp [printField, commas_cons]
      · simp

theorem print_list (items : List Json) :
    (list items).print = '[' :: (commas (items.map print) ++ [']']) := by
  rw [print, printItems_eq]

theorem print_object (fields : List (String × Json)) :
    (object fields).print
      = '\x7b' :: (commas (fields.map fun e => printField e.1 e.2.print) ++ ['\x7d']) := by
  rw [print, printFields_eq]

/-! ### Reading what was printed -/

theorem startsNumber_ne {c d : Char} (h : startsNumber c = true) (hd : startsNumber d = false) :
    c ≠ d := by
  rintro rfl
  rw [h] at hd
  cases hd

/-- A whole number starts with a sign or a digit. -/
theorem exists_print_number {n : Number} (whole : n.IsWhole) :
    ∃ c rest, n.print = c :: rest ∧ startsNumber c = true := by
  cases n with
  | binary x => exact absurd whole id
  | integer n =>
    cases n with
    | ofNat n =>
      obtain ⟨c, ds, split, digit⟩ := exists_toDigits n
      refine ⟨c, ds, split, ?_⟩
      rw [startsNumber, digit, Bool.or_true]
    | negSucc n => exact ⟨'-', _, rfl, rfl⟩

/-- The character starts a value that is no container. -/
structure StartsScalar (c : Char) : Prop where
  space : isSpace c = false
  last : c ≠ ']'
  list : c ≠ '['
  object : c ≠ '\x7b'

theorem startsScalar_of_startsNumber {c : Char} (h : startsNumber c = true) : StartsScalar c where
  space := by
    rw [Bool.eq_false_iff]
    intro space
    simp only [isSpace, Bool.or_eq_true, beq_iff_eq] at space
    rcases space with ((rfl | rfl) | rfl) | rfl
    all_goals exact absurd h (by decide)
  last := startsNumber_ne h (by decide)
  list := startsNumber_ne h (by decide)
  object := startsNumber_ne h (by decide)

theorem readScalar_number {c : Char} (h : startsNumber c = true) (s : List Char) :
    readScalar c s = (readNumber (c :: s)).map fun p => (.number p.1, p.2) := by
  rw [readScalar, if_neg (startsNumber_ne h (by decide)), if_neg (startsNumber_ne h (by decide)),
    if_neg (startsNumber_ne h (by decide)), if_pos h]

/-- A value that is no container is told by its first character. -/
theorem exists_print_scalar {v : Json} (scalar : v.IsScalar) (free : v.FloatFree) :
    ∃ c tail, v.print = c :: tail ∧ StartsScalar c ∧
      ∀ depth rest, Fits depth v → Closes rest → readScalar c (tail ++ rest) = .ok (v, rest) := by
  have letter {c : Char} (h : c ∈ ['n', 't', 'f', '"']) : StartsScalar c := by
    simp only [List.mem_cons, List.not_mem_nil, or_false] at h
    rcases h with rfl | rfl | rfl | rfl
    all_goals exact ⟨by decide, by decide, by decide, by decide⟩
  cases v with
  | null => exact ⟨'n', ['u', 'l', 'l'], rfl, letter (by decide), fun _ _ _ _ => rfl⟩
  | flag b =>
    cases b with
    | true => exact ⟨'t', ['r', 'u', 'e'], rfl, letter (by decide), fun _ _ _ _ => rfl⟩
    | false => exact ⟨'f', ['a', 'l', 's', 'e'], rfl, letter (by decide), fun _ _ _ _ => rfl⟩
  | number n =>
    obtain ⟨c, tail, split, starts⟩ := exists_print_number free
    refine ⟨c, tail, split, startsScalar_of_startsNumber starts, ?_⟩
    intro depth rest fits closed
    have range : n.InRange := by cases depth <;> exact fits
    have read := readNumber_print range free closed
    rw [split, List.cons_append] at read
    rw [readScalar_number starts, read]
    rfl
  | text s =>
    refine ⟨'"', s.toList.flatMap escape ++ ['"'], rfl, letter (by decide), ?_⟩
    intro depth rest _ _
    rw [List.append_assoc]
    show (readText (s.toList.flatMap escape ++ '"' :: rest)).map _ = _
    rw [readText_printed]
    rfl
  | list items => exact absurd scalar id
  | object fields => exact absurd scalar id

theorem starts_print_object (fields : List (String × Json)) : Starts (object fields).print :=
  ⟨'\x7b', _, rfl, by decide, by decide⟩

theorem starts_print {v : Json} (free : v.FloatFree) : Starts v.print := by
  by_cases scalar : v.IsScalar
  · obtain ⟨c, tail, split, starts, -⟩ := exists_print_scalar scalar free
    exact ⟨c, tail, split, starts.space, starts.last⟩
  · cases v with
    | list items => exact ⟨'[', _, rfl, by decide, by decide⟩
    | object fields => exact starts_print_object fields
    | _ => exact absurd trivial scalar

theorem readValue_scalar {depth : Nat} {v : Json} {rest : List Char} (scalar : v.IsScalar)
    (h : Faithful depth v) (closed : Closes rest) :
    readValue depth (v.print ++ rest) = .ok (v, rest) := by
  obtain ⟨c, tail, split, starts, read⟩ := exists_print_scalar scalar h.free
  rw [split, List.cons_append, readValue.eq_def]
  dsimp only
  rw [skipSpace_cons starts.space]
  dsimp only
  rw [if_neg starts.list, if_neg starts.object, read depth rest h.fits closed]

theorem readValue_list (depth : Nat) (s : List Char) :
    readValue (depth + 1) ('[' :: s)
      = (foldElements (fun items s => (readValue depth s).map fun p => (p.1 :: items, p.2))
          (s.length + 1) true [] s).map fun p => (list p.1.reverse, p.2) := by
  rw [readValue.eq_def]
  rfl

/-- Reads a field with its value, in front of those that were read before. -/
def readEntry (depth : Nat) (fields : List (String × Json)) (key : String) (s : List Char) :
    Except Fault (List (String × Json) × List Char) :=
  expectColon s >>= fun s => (readValue depth s).map fun p => ((key, p.1) :: fields, p.2)

theorem readValue_object (depth : Nat) (s : List Char) :
    readValue (depth + 1) ('\x7b' :: s)
      = (foldFields (readEntry depth) (s.length + 1) true [] s).map
          fun p => (object p.1.reverse, p.2) := by
  rw [readValue.eq_def]
  rfl

/-- A value is read as it was printed. -/
theorem readValue_print {depth : Nat} {v : Json} {rest : List Char} (h : Faithful depth v)
    (closed : Closes rest) : readValue depth (v.print ++ rest) = .ok (v, rest) := by
  -- The reader recurses on the depth that is left, and the items of a container fit one less.
  induction depth generalizing v rest with
  | zero => exact readValue_scalar (isScalar_of_fits_zero h.fits) h closed
  | succ depth ih =>
    cases v with
    | list items =>
      have each : ∀ v ∈ items, Faithful depth v := fun v hv =>
        ⟨fits_list.mp h.fits v hv, floatFree_list.mp h.free v hv⟩
      have elements := foldElements_collect (fun v hv => starts_print (each v hv).free)
        (fun v hv rest closed => ih (each v hv) closed) rest
      rw [print_list, List.cons_append, List.append_assoc, readValue_list]
      refine (congrArg _ elements).trans ?_
      show Except.ok (list items.reverse.reverse, rest) = _
      rw [List.reverse_reverse]
    | object fields =>
      have each : ∀ e ∈ fields, Faithful depth e.2 := fun e he =>
        ⟨fits_object.mp h.fits e he, floatFree_object.mp h.free e he⟩
      have reads : ∀ e ∈ fields, ∀ acc rest, Closes rest →
          readEntry depth acc e.1 (':' :: (e.2.print ++ rest))
            = (Except.ok (e :: acc) : Except Fault _).map (·, rest) := by
        intro e he acc rest closed
        rw [readEntry, expectColon_cons]
        show (readValue depth (e.2.print ++ rest)).map _ = _
        rw [ih (each e he) closed]
        rfl
      have all := foldFields_print reads [] rest
      rw [foldlM_collect, List.append_nil] at all
      rw [print_object, List.cons_append, List.append_assoc, readValue_object]
      refine (congrArg _ all).trans ?_
      show Except.ok (object fields.reverse.reverse, rest) = _
      rw [List.reverse_reverse]
    | _ => exact readValue_scalar trivial h closed

/-- A document is read that is written from what a step reads. -/
theorem readDocument_render {α : Type} {step : List Char → Except Fault (α × List Char)} {v : Json}
    {a : α} (h : step (v.print ++ []) = .ok (a, [])) : readDocument step v.render = .ok a := by
  rw [List.append_nil] at h
  rw [readDocument, render, String.toList_ofList, h]
  rfl

/-! ### What is read fits -/

/-- Every number that a step answers with is one that 64 bits hold. -/
def Ranges (r : Except Fault (Number × List Char)) : Prop :=
  ∀ n rest, r = .ok (n, rest) → n.InRange

theorem ranges_error (fault : Fault) : Ranges (.error fault) := fun _ _ h => by cases h

theorem ranges_scaled (negative : Bool) (significand : Nat) (exponent : Int) (rest : List Char) :
    Ranges ((scaled negative significand exponent).map (·, rest)) := by
  intro n tail h
  obtain ⟨m, hm, same⟩ := Except.map_eq_ok_iff.mp h
  cases same
  rw [scaled] at hm
  split at hm
  · cases hm
    trivial
  · cases hm

theorem ranges_readExponent (negative : Bool) (significand : Nat) (exponent : Int)
    (s : List Char) : Ranges (readExponent negative significand exponent s) := by
  rw [readExponent.eq_def]
  split
  split
  · exact ranges_error _
  · split
    · exact ranges_scaled _ _ _ _
    · exact ranges_error _

theorem ranges_readFraction (negative : Bool) (significand : Nat) (exponent : Int)
    (s : List Char) : Ranges (readFraction negative significand exponent s) := by
  rw [readFraction.eq_def]
  split
  · exact ranges_error _
  · split
    · split
      rw [finishNumber.eq_def]
      split
      · exact ranges_readExponent _ _ _ _
      · exact ranges_readExponent _ _ _ _
      · exact ranges_scaled _ _ _ _
    · exact ranges_error _

theorem ranges_wholeNumber (negative : Bool) {significand : Nat} (fits : significand < wordBound)
    (rest : List Char) : Ranges ((wholeNumber negative significand).map (·, rest)) := by
  have bound : significand < 18446744073709551616 := fits
  rw [wholeNumber]
  split
  · split
    · exact ranges_scaled _ _ _ _
    · next room =>
      have small : ¬ (significand = 0 ∨ 9223372036854775808 < significand) := room
      intro n tail h
      cases h
      rw [Number.inRange_integer]
      omega
  · intro n tail h
    cases h
    rw [Number.inRange_integer]
    omega

theorem ranges_readTail (negative : Bool) {significand : Nat} (fits : significand < wordBound)
    (dropped : Nat) (s : List Char) : Ranges (readTail negative significand dropped s) := by
  rw [readTail.eq_def]
  split
  · exact ranges_readFraction _ _ _ _
  · exact ranges_readExponent _ _ _ _
  · exact ranges_readExponent _ _ _ _
  · split
    · exact ranges_wholeNumber negative fits _
    · exact ranges_scaled _ _ _ _

theorem takeDigits_lt {significand : Nat} (fits : significand < wordBound) (count : Nat)
    (s : List Char) : (takeDigits significand count s).1 < wordBound := by
  induction s generalizing significand count with
  | nil => exact fits
  | cons c s ih =>
    rw [takeDigits]
    split
    · dsimp only
      split
      · next room => exact ih room _
      · exact fits
    · exact fits

theorem ranges_readUnsigned (negative : Bool) (s : List Char) :
    Ranges (readUnsigned negative s) := by
  have zero : 0 < wordBound := Nat.pow_pos (by decide)
  rw [readUnsigned.eq_def]
  split
  · exact ranges_error _
  · next c rest =>
    split
    · split
      · exact ranges_readTail negative zero _ _
      · split
        · exact ranges_error _
        · exact ranges_readTail negative zero _ _
    · split
      · exact ranges_readTail negative (takeDigits_lt zero 0 (c :: rest)) _ _
      · exact ranges_error _

theorem ranges_readNumber (s : List Char) : Ranges (readNumber s) := by
  rw [readNumber.eq_def]
  split
  · exact ranges_readUnsigned _ _
  · exact ranges_readUnsigned _ _

section Folds

variable {σ : Type} {acc out : σ} {s rest : List Char} (P : σ → Prop)

/-- What every element keeps, a list of them keeps. -/
theorem foldElements_induction {item : σ → List Char → Except Fault (σ × List Char)}
    (step : ∀ acc s out rest, P acc → item acc s = .ok (out, rest) → P out)
    {fuel : Nat} {first : Bool} (start : P acc)
    (h : foldElements item fuel first acc s = .ok (out, rest)) : P out := by
  induction fuel generalizing first acc s with
  | zero => cases h
  | succ fuel ih =>
    rw [foldElements] at h
    obtain ⟨⟨more, s'⟩, -, h⟩ := Except.bind_eq_ok_iff.mp h
    cases more with
    | false =>
      cases h
      exact start
    | true =>
      obtain ⟨⟨acc', s''⟩, one, others⟩ := Except.bind_eq_ok_iff.mp h
      exact ih (step acc s' acc' s'' start one) others

/-- What each element is that is read, all of them are that are collected. -/
theorem forall_of_collect {α : Type} {read : List Char → Except Fault (α × List Char)}
    {Q : α → Prop} (each : ∀ s a rest, read s = .ok (a, rest) → Q a) {fuel : Nat} {first : Bool}
    {items : List α}
    (h : foldElements (fun items s => (read s).map fun p => (p.1 :: items, p.2)) fuel first [] s
      = .ok (items, rest)) : ∀ a ∈ items, Q a := by
  refine foldElements_induction (fun items => ∀ a ∈ items, Q a) ?_ ?_ h
  · intro acc s out rest known one
    obtain ⟨⟨a, s'⟩, found, same⟩ := Except.map_eq_ok_iff.mp one
    cases same
    exact List.forall_mem_cons.mpr ⟨each s a s' found, known⟩
  · exact fun _ ha => by cases ha

/-- What every field keeps, an object of them keeps. -/
theorem foldFields_induction {entry : σ → String → List Char → Except Fault (σ × List Char)}
    (step : ∀ acc key s out rest, P acc → entry acc key s = .ok (out, rest) → P out)
    {fuel : Nat} {first : Bool} (start : P acc)
    (h : foldFields entry fuel first acc s = .ok (out, rest)) : P out := by
  induction fuel generalizing first acc s with
  | zero => cases h
  | succ fuel ih =>
    rw [foldFields] at h
    obtain ⟨⟨key, s'⟩, -, h⟩ := Except.bind_eq_ok_iff.mp h
    cases key with
    | none =>
      cases h
      exact start
    | some key =>
      obtain ⟨⟨acc', s''⟩, one, others⟩ := Except.bind_eq_ok_iff.mp h
      exact ih (step acc key s' acc' s'' start one) others

end Folds

theorem fits_readScalar {depth : Nat} {c : Char} {s rest : List Char} {v : Json}
    (h : readScalar c s = .ok (v, rest)) : Fits depth v := by
  rw [readScalar] at h
  split at h
  · obtain ⟨_, -, same⟩ := Except.map_eq_ok_iff.mp h
    cases same
    cases depth <;> trivial
  split at h
  · obtain ⟨_, -, same⟩ := Except.map_eq_ok_iff.mp h
    cases same
    cases depth <;> trivial
  split at h
  · obtain ⟨_, -, same⟩ := Except.map_eq_ok_iff.mp h
    cases same
    cases depth <;> trivial
  split at h
  · obtain ⟨⟨n, tail⟩, read, same⟩ := Except.map_eq_ok_iff.mp h
    cases same
    have range := ranges_readNumber (c :: s) n tail read
    cases depth <;> exact range
  split at h
  · obtain ⟨_, -, same⟩ := Except.map_eq_ok_iff.mp h
    cases same
    exact fits_text ..
  · cases h

/-- Every value that is read within a depth fits it. -/
theorem fits_readValue {depth : Nat} {s rest : List Char} {v : Json}
    (h : readValue depth s = .ok (v, rest)) : Fits depth v := by
  induction depth generalizing s v rest with
  | zero =>
    rw [readValue.eq_def] at h
    dsimp only at h
    split at h
    · cases h
    split at h
    · cases h
    split at h
    · cases h
    · exact fits_readScalar h
  | succ depth ih =>
    rw [readValue.eq_def] at h
    dsimp only at h
    split at h
    · cases h
    split at h
    · obtain ⟨⟨items, tail⟩, elements, same⟩ := Except.bind_eq_ok_iff.mp h
      cases same
      have all : ∀ v ∈ items, Fits depth v := forall_of_collect (fun s v rest h => ih h) elements
      exact fits_list.mpr fun v hv => all v (List.mem_reverse.mp hv)
    split at h
    · obtain ⟨⟨fields, tail⟩, entries, same⟩ := Except.bind_eq_ok_iff.mp h
      cases same
      have all : ∀ e ∈ fields, Fits depth e.2 := by
        refine foldFields_induction (fun fields => ∀ e ∈ fields, Fits depth e.2) ?_ ?_ entries
        · intro acc key s out rest fits one
          obtain ⟨s', -, one⟩ := Except.bind_eq_ok_iff.mp one
          obtain ⟨⟨v, s''⟩, read, same⟩ := Except.bind_eq_ok_iff.mp one
          cases same
          exact List.forall_mem_cons.mpr ⟨ih read, fits⟩
        · exact fun _ he => by cases he
      exact fits_object.mpr fun e he => all e (List.mem_reverse.mp he)
    · exact fits_readScalar h

/-! ### Sorted objects -/

theorem canonicalItems_eq (items : List Json) : canonicalItems items = items.map canonical := by
  induction items with
  | nil => rfl
  | cons v rest ih => rw [canonicalItems, ih, List.map_cons]

theorem canonicalFields_eq (fields : List (String × Json)) :
    canonicalFields fields SortedMap.empty
      = SortedMap.ofList (fields.map fun e => (e.1, e.2.canonical)) := by
  have general (m : SortedMap String Json) :
      canonicalFields fields m = fields.foldl (fun m e => m.insert e.1 e.2.canonical) m := by
    induction fields generalizing m with
    | nil => rfl
    | cons e rest ih => rw [canonicalFields, ih, List.foldl_cons]
  rw [general, SortedMap.ofList, List.foldl_map]

theorem canonical_of_isScalar {v : Json} (h : v.IsScalar) : v.canonical = v := by
  cases v with
  | list items => exact absurd h id
  | object fields => exact absurd h id
  | _ => rfl

theorem canonical_list (items : List Json) :
    (list items).canonical = list (items.map canonical) := by
  rw [canonical, canonicalItems_eq]

theorem canonical_object (fields : List (String × Json)) :
    (object fields).canonical
      = ofMap (SortedMap.ofList (fields.map fun e => (e.1, e.2.canonical))) := by
  rw [canonical, canonicalFields_eq]

/-- The fields of a sorted object are sorted values. -/
theorem exists_of_mem_canonical {fields : List (String × Json)} {e : String × Json}
    (h : e ∈ (SortedMap.ofList (fields.map fun e => (e.1, e.2.canonical))).entries) :
    ∃ d ∈ fields, e.2 = d.2.canonical := by
  obtain ⟨d, hd, rfl⟩ := List.mem_map.mp (SortedMap.mem_of_mem_entries_ofList h)
  exact ⟨d, hd, rfl⟩

mutual

/-- Sorting twice is sorting once. -/
theorem canonical_canonical : ∀ v : Json, v.canonical.canonical = v.canonical
  | null => rfl
  | flag _ => rfl
  | number _ => rfl
  | text _ => rfl
  | list items => by
    rw [canonical_list, canonical_list, List.map_map]
    exact congrArg list (List.map_congr_left (canonical_canonical_items items))
  | object fields => by
    -- The values in the map have been sorted before, and the map lists its entries in order.
    have same : ∀ e ∈ (SortedMap.ofList (fields.map fun e => (e.1, e.2.canonical))).entries,
        (e.1, e.2.canonical) = e := by
      intro e he
      obtain ⟨d, hd, eq⟩ := exists_of_mem_canonical he
      rw [eq, canonical_canonical_fields fields d hd, ← eq]
    rw [canonical_object, ofMap, canonical_object, List.map_congr_left same, List.map_id',
      SortedMap.ofList_entries]
    rfl

theorem canonical_canonical_items : ∀ items : List Json, ∀ v ∈ items,
    v.canonical.canonical = v.canonical
  | [], _, h => by cases h
  | v :: rest, w, h => by
    rcases List.mem_cons.mp h with h | h
    · exact h ▸ canonical_canonical v
    · exact canonical_canonical_items rest w h

theorem canonical_canonical_fields : ∀ fields : List (String × Json), ∀ e ∈ fields,
    e.2.canonical.canonical = e.2.canonical
  | [], _, h => by cases h
  | (name, v) :: rest, e, h => by
    rcases List.mem_cons.mp h with h | h
    · exact h ▸ canonical_canonical v
    · exact canonical_canonical_fields rest e h

end

theorem Fits.canonical {depth : Nat} {v : Json} (h : Fits depth v) : Fits depth v.canonical := by
  induction depth generalizing v with
  | zero =>
    rw [canonical_of_isScalar (isScalar_of_fits_zero h)]
    exact h
  | succ depth ih =>
    cases v with
    | list items =>
      rw [fits_list] at h
      rw [canonical_list, fits_list, List.forall_mem_map]
      exact fun v hv => ih (h v hv)
    | object fields =>
      rw [fits_object] at h
      rw [canonical_object, ofMap, fits_object]
      intro e he
      obtain ⟨d, hd, same⟩ := exists_of_mem_canonical he
      rw [same]
      exact ih (h d hd)
    | _ => exact h

end Json

end Cratewright
