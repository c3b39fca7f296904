/-
Printed tokens are read again.

Texts and whole numbers are read as they were printed, and so are the elements of a list and the
fields of an object, if each of them is:

* `Json.readText_printed` — texts, with all escapes;
* `Json.readNumber_print` — whole numbers that 64 bits hold;
* `Json.foldElements_print`, `Json.foldFields_print` — what stands between the brackets.
-/
import Mathlib.Data.List.Basic
import Cratewright.Json.Printer
import Cratewright.Json.Reader
import Cratewright.Proofs.Text.Lines

namespace Cratewright

/-! ### Hexadecimal digits -/

namespace Text

theorem hexValue?_hexDigit : ∀ n < 16, hexValue? (hexDigit n) = some n := by decide

/-- Enough digits say what the number is. -/
theorem hexNumber?_hexPadded {width n : Nat} (h : n < Nat.pow 16 width) :
    hexNumber? (hexPadded width n) = some n := by
  induction width generalizing n with
  | zero =>
    have zero : n = 0 := Nat.lt_one_iff.mp h
    rw [zero]
    rfl
  | succ width ih =>
    have split : n < 16 * Nat.pow 16 width := by
      rw [Nat.mul_comm]
      exact h
    have front := ih (Nat.div_lt_of_lt_mul split)
    have low := hexValue?_hexDigit (n % 16) (Nat.mod_lt n (by decide))
    rw [hexNumber?] at front
    rw [hexPadded, hexNumber?, List.foldlM_append, front]
    show ((hexValue? (hexDigit (n % 16))).map (16 * (n / 16) + ·)).bind pure = some n
    rw [low, Option.map_some, Nat.div_add_mod]
    rfl

end Text

namespace Json

/-! ### Texts -/

theorem readChars_plain {c : Char} (s : List Char) (quote : c ≠ '"') (slash : c ≠ '\\')
    (control : ¬ c.toNat < 0x20) : readChars (c :: s) = push c (readChars s) := by
  rw [readChars.eq_def]
  dsimp only
  rw [if_neg quote, if_neg slash, if_neg control]

theorem readChars_simple {e x : Char} (s : List Char) (h : simpleEscape? e = some x) :
    readChars ('\\' :: e :: s) = push x (readChars s) := by
  rw [readChars.eq_def]
  dsimp only
  rw [if_neg (by decide), if_pos rfl, h]

/-- A unit below the surrogates is a character of its own. -/
theorem readChars_unit {n : Nat} (s : List Char) (h : n < 0xd800) :
    readChars (['\\', 'u'] ++ Text.hexPadded 4 n ++ s) = push (Char.ofNat n) (readChars s) := by
  let digit (n : Nat) : Char := Text.hexDigit (n % 16)
  have quad : hexQuad? (digit (n / 16 / 16 / 16)) (digit (n / 16 / 16)) (digit (n / 16)) (digit n)
      = some n :=
    @Text.hexNumber?_hexPadded 4 n (Nat.lt_trans h (by decide))
  have low : isLowSurrogate n = false := by
    rw [isLowSurrogate, Bool.and_eq_false_iff, decide_eq_false_iff_not]
    omega
  have high : isHighSurrogate n = false := by
    rw [isHighSurrogate, Bool.and_eq_false_iff, decide_eq_false_iff_not]
    omega
  show readChars ('\\' :: 'u' :: digit (n / 16 / 16 / 16) :: digit (n / 16 / 16) :: digit (n / 16)
    :: digit n :: s) = _
  have unit : simpleEscape? 'u' = none := rfl
  rw [readChars.eq_def]
  dsimp only
  rw [if_neg (by decide), if_pos rfl, unit]
  dsimp only
  rw [if_pos rfl, quad]
  dsimp only
  rw [low, high]
  rfl

/-- The characters that an escape of one letter stands for. -/
def lettered : List Char := ['"', '\\', '\n', '\r', '\t', '\x08', '\x0c']

theorem escape_of_not_lettered {c : Char} (h : c ∉ lettered) :
    escape c = if c.toNat < 0x20 then ['\\', 'u'] ++ Text.hexPadded 4 c.toNat else [c] := by
  simp only [lettered, List.mem_cons, List.not_mem_nil, or_false, not_or] at h
  obtain ⟨quote, slash, feed, ret, tab, backspace, formFeed⟩ := h
  have backspace : c.toNat ≠ 0x8 := fun code => backspace (by rw [← Char.ofNat_toNat c, code])
  have formFeed : c.toNat ≠ 0xc := fun code => formFeed (by rw [← Char.ofNat_toNat c, code])
  simp only [escape, quote, slash, feed, ret, tab, backspace, formFeed, if_false]

/-- A character is read as it was escaped. -/
theorem readChars_escape (c : Char) (s : List Char) :
    readChars (escape c ++ s) = push c (readChars s) := by
  by_cases simple : c ∈ lettered
  · simp only [lettered, List.mem_cons, List.not_mem_nil, or_false] at simple
    rcases simple with rfl | rfl | rfl | rfl | rfl | rfl | rfl
    all_goals exact readChars_simple s rfl
  · rw [escape_of_not_lettered simple]
    by_cases control : c.toNat < 0x20
    · rw [if_pos control, readChars_unit s (by omega), Char.ofNat_toNat]
    · rw [if_neg control]
      refine readChars_plain s ?_ ?_ control
      all_goals
        rintro rfl
        exact simple (by decide)

/-- A text is read as it was printed. -/
theorem readText_printed (s : String) (rest : List Char) :
    readText (s.toList.flatMap escape ++ '"' :: rest) = .ok (s, rest) := by
  have chars (l : List Char) : readChars (l.flatMap escape ++ '"' :: rest) = .ok (l, rest) := by
    induction l with
    | nil =>
      show readChars ('"' :: rest) = _
      rw [readChars.eq_def]
      rfl
    | cons c l ih =>
      rw [List.flatMap_cons, List.append_assoc, readChars_escape, ih]
      rfl
  rw [readText, chars]
  show Except.ok (String.ofList s.toList, rest) = _
  rw [String.ofList_toList]

theorem printText_append (s : String) (rest : List Char) :
    printText s ++ rest = '"' :: (s.toList.flatMap escape ++ '"' :: rest) := by
  rw [printText, List.cons_append, List.append_assoc]
  rfl

/-! ### Whole numbers -/

/-- The text does not go on with a number. -/
def Closes (rest : List Char) : Prop :=
  ∀ c, rest.head? = some c → c.isDigit = false ∧ c ≠ '.' ∧ c ≠ 'e' ∧ c ≠ 'E'

theorem closes_cons {c : Char} (rest : List Char)
    (h : c.isDigit = false ∧ c ≠ '.' ∧ c ≠ 'e' ∧ c ≠ 'E') : Closes (c :: rest) := by
  intro d hd
  cases hd
  exact h

/-- A whole number is one that 64 bits hold, with or without a sign. -/
def Number.InRange : Number → Prop
  | integer n => -(Nat.pow 2 63 : Int) ≤ n ∧ n < wordBound
  | binary _ => True

theorem Number.inRange_integer {n : Int} :
    (integer n).InRange ↔ -9223372036854775808 ≤ n ∧ n < 18446744073709551616 :=
  Iff.rfl

def Number.IsWhole : Number → Prop
  | integer _ => True
  | binary _ => False

section Digits

variable {rest : List Char}

theorem le_ofDigitChars (ds : List Char) (n : Nat) : n ≤ Nat.ofDigitChars 10 ds n := by
  rw [Nat.ofDigitChars_eq_ofDigitChars_zero]
  have scaled : n ≤ 10 ^ ds.length * n := Nat.le_mul_of_pos_left n (Nat.pow_pos (by decide))
  omega

theorem takeDigits_append {ds : List Char} (digits : ∀ c ∈ ds, c.isDigit = true)
    (closed : Closes rest) (n count : Nat) (fits : Nat.ofDigitChars 10 ds n < wordBound) :
    takeDigits n count (ds ++ rest) = (Nat.ofDigitChars 10 ds n, count + ds.length, rest) := by
  induction ds generalizing n count with
  | nil =>
    cases rest with
    | nil => rfl
    | cons c rest =>
      have noDigit := (closed c rfl).1
      rw [List.nil_append, takeDigits, if_neg (by rw [noDigit]; decide)]
      rfl
  | cons c ds ih =>
    have digit := digits c (List.mem_cons_self ..)
    have value : 10 * n + (c.toNat - '0'.toNat) = n * 10 + digitValue c := by
      rw [Nat.mul_comm]
      rfl
    rw [Nat.ofDigitChars_cons, value] at fits ⊢
    -- The significand only grows, so it has room as long as the whole number has.
    have room := Nat.lt_of_le_of_lt (le_ofDigitChars ds _) fits
    rw [List.cons_append, takeDigits, if_pos digit]
    dsimp only
    rw [if_pos room, ih (fun d hd => digits d (List.mem_cons_of_mem c hd)) _ _ fits,
      List.length_cons, Nat.add_assoc, Nat.add_comm 1]

theorem exists_toDigits (n : Nat) :
    ∃ c ds, Nat.toDigits 10 n = c :: ds ∧ c.isDigit = true := by
  obtain ⟨c, ds, split⟩ := List.exists_cons_of_ne_nil (@Nat.toDigits_ne_nil n 10)
  have mem : c ∈ Nat.toDigits 10 n := by simp [split]
  exact ⟨c, ds, split, Nat.isDigit_of_mem_toDigits (by decide) (by decide) mem⟩

theorem head_toDigits_ne_zero {n : Nat} (h : 0 < n) : (Nat.toDigits 10 n).head? ≠ some '0' := by
  induction n using Nat.strongRecOn with
  | ind n ih =>
    rw [Nat.toDigits_eq_if (by decide)]
    split
    · next small =>
      have digits : ∀ n < 10, 0 < n → [Nat.digitChar n].head? ≠ some '0' := by decide
      exact digits n small h
    · next large =>
      rw [List.head?_append_of_ne_nil _ Nat.toDigits_ne_nil]
      exact ih (n / 10) (by omega) (by omega)

theorem readTail_of_closes (negative : Bool) (significand : Nat) (closed : Closes rest) :
    readTail negative significand 0 rest = (wholeNumber negative significand).map (·, rest) := by
  cases rest with
  | nil => rfl
  | cons c rest =>
    obtain ⟨-, point, lower, upper⟩ := closed c rfl
    rw [readTail]
    · rfl
    all_goals
      intro tail same
      cases same
      contradiction

theorem readUnsigned_toDigits (negative : Bool) {n : Nat} (fits : n < wordBound)
    (closed : Closes rest) :
    readUnsigned negative (Nat.toDigits 10 n ++ rest)
      = (wholeNumber negative n).map (·, rest) := by
  by_cases zero : n = 0
  · -- A zero that leads ends the number, so no digit may follow it.
    subst zero
    rw [Nat.toDigits_zero, ← readTail_of_closes negative 0 closed]
    cases rest with
    | nil => rfl
    | cons c rest =>
      show (if c.isDigit then _ else _) = _
      rw [(closed c rfl).1]
      rfl
  · have first := head_toDigits_ne_zero (Nat.pos_of_ne_zero zero)
    have digits : ∀ c ∈ Nat.toDigits 10 n, c.isDigit = true := fun c hc =>
      Nat.isDigit_of_mem_toDigits (by decide) (by decide) hc
    have value : Nat.ofDigitChars 10 (Nat.toDigits 10 n) 0 = n := Nat.ofDigitChars_ten_toDigits
    have taken := takeDigits_append digits closed 0 0 (by rwa [value])
    rw [value] at taken
    have left : dropDigits rest = rest := by
      cases rest with
      | nil => rfl
      | cons c rest => exact List.dropWhile_cons_of_neg (by rw [(closed c rfl).1]; decide)
    obtain ⟨c, ds, split, digit⟩ := exists_toDigits n
    rw [split] at first taken ⊢
    have nonzero : c ≠ '0' := fun same => first (by rw [same]; rfl)
    rw [List.cons_append] at taken ⊢
    rw [readUnsigned.eq_def]
    dsimp only
    rw [if_neg nonzero, if_pos digit, taken]
    dsimp only
    rw [left, Nat.sub_self]
    exact readTail_of_closes negative n closed

end Digits

/-- A whole number that 64 bits hold is read as it was printed. -/
theorem readNumber_print {n : Number} (range : n.InRange) (whole : n.IsWhole) {rest : List Char}
    (closed : Closes rest) : readNumber (n.print ++ rest) = .ok (n, rest) := by
  cases n with
  | binary x => exact absurd whole id
  | integer n =>
    obtain ⟨low, high⟩ := Number.inRange_integer.mp range
    cases n with
    | ofNat n =>
      have fits : n < wordBound := Int.ofNat_lt.mp high
      obtain ⟨c, ds, split, digit⟩ := exists_toDigits n
      have unsigned := readUnsigned_toDigits false fits closed
      show readNumber (Nat.toDigits 10 n ++ rest) = _
      rw [split] at unsigned ⊢
      rw [List.cons_append, readNumber]
      · exact unsigned
      · -- A digit is no sign.
        intro tail same
        cases same
        cases digit
    | negSucc n =>
      have fits : n + 1 < wordBound := by
        show n + 1 < 18446744073709551616
        omega
      show readUnsigned true (Nat.toDigits 10 (n + 1) ++ rest) = _
      have room : ¬ (n + 1 = 0 ∨ Nat.pow 2 63 < n + 1) := by
        show ¬ (n + 1 = 0 ∨ 9223372036854775808 < n + 1)
        omega
      rw [readUnsigned_toDigits true fits closed, wholeNumber, if_pos rfl, if_neg room]
      rfl

/-! ### Elements and fields -/

theorem skipSpace_cons {c : Char} (h : isSpace c = false) (s : List Char) :
    skipSpace (c :: s) = c :: s :=
  List.dropWhile_cons_of_neg (by rw [h]; decide)

/-- The text starts like a value. -/
def Starts (s : List Char) : Prop := ∃ c rest, s = c :: rest ∧ isSpace c = false ∧ c ≠ ']'

theorem Starts.append {s : List Char} (h : Starts s) (t : List Char) : Starts (s ++ t) := by
  obtain ⟨c, rest, rfl, starts⟩ := h
  exact ⟨c, rest ++ t, rfl, starts⟩

theorem nextElement_first {s : List Char} (h : Starts s) : nextElement true s = .ok (true, s) := by
  obtain ⟨c, rest, rfl, space, bracket⟩ := h
  rw [nextElement, skipSpace_cons space]
  dsimp only
  rw [if_neg bracket, if_pos rfl]

theorem nextElement_comma {s : List Char} (h : Starts s) :
    nextElement false (',' :: s) = .ok (true, s) := by
  obtain ⟨c, rest, rfl, space, bracket⟩ := h
  rw [nextElement, skipSpace_cons (by decide)]
  dsimp only
  rw [if_neg (by decide), if_neg (by decide), if_pos rfl, skipSpace_cons space]
  dsimp only
  rw [if_neg bracket]

theorem nextKey_first (k : String) (s : List Char) :
    nextKey true (printText k ++ s) = .ok (some k, s) := by
  rw [printText_append, nextKey, skipSpace_cons (by decide)]
  dsimp only
  rw [if_neg (by decide), if_pos rfl, if_pos rfl, readText_printed]
  rfl

theorem nextKey_comma (k : String) (s : List Char) :
    nextKey false (',' :: (printText k ++ s)) = .ok (some k, s) := by
  rw [printText_append, nextKey, skipSpace_cons (by decide)]
  dsimp only
  rw [if_neg (by decide), if_neg (by decide), if_pos rfl, skipSpace_cons (by decide)]
  dsimp only
  rw [if_pos rfl, readText_printed]
  rfl

theorem expectColon_cons (s : List Char) : expectColon (':' :: s) = .ok s := rfl

theorem closes_comma (rest : List Char) : Closes (',' :: rest) := closes_cons rest (by decide)

theorem closes_bracket (rest : List Char) : Closes (']' :: rest) := closes_cons rest (by decide)

theorem closes_brace (rest : List Char) : Closes ('\x7d' :: rest) := closes_cons rest (by decide)

/-- Texts with commas between them. -/
def commas (ts : List (List Char)) : List Char := [','].intercalate ts

theorem commas_cons (t : List Char) (ts : List (List Char)) :
    commas (t :: ts) = t ++ ts.flatMap (',' :: ·) :=
  Text.intercalate_cons ',' t ts

theorem closes_tail {rest : List Char} (h : Closes rest) (ts : List (List Char)) :
    Closes (ts.flatMap (',' :: ·) ++ rest) := by
  cases ts with
  | nil => exact h
  | cons t ts => exact closes_comma _

theorem length_le_tail (ts : List (List Char)) : ts.length ≤ (ts.flatMap (',' :: ·)).length := by
  induction ts with
  | nil => exact Nat.le_refl 0
  | cons t ts ih =>
    rw [List.flatMap_cons, List.length_append, List.length_cons, List.length_cons]
    omega

section Folds

variable {σ α : Type} {write : α → List Char} {put : σ → α → Except Fault σ} {xs : List α}

theorem foldElements_tail {item : σ → List Char → Except Fault (σ × List Char)}
    (starts : ∀ x ∈ xs, Starts (write x))
    (reads : ∀ x ∈ xs, ∀ acc rest, Closes rest →
      item acc (write x ++ rest) = (put acc x).map (·, rest))
    {fuel : Nat} (enough : xs.length < fuel) (acc : σ) (rest : List Char) :
    foldElements item fuel false acc ((xs.map write).flatMap (',' :: ·) ++ ']' :: rest)
      = (xs.foldlM put acc).map (·, rest) := by
  induction xs generalizing fuel acc with
  | nil =>
    obtain ⟨fuel, rfl⟩ := Nat.exists_eq_succ_of_ne_zero (Nat.ne_of_gt enough)
    rfl
  | cons x xs ih =>
    obtain ⟨fuel, rfl⟩ := Nat.exists_eq_succ_of_ne_zero (Nat.ne_of_gt (Nat.zero_lt_of_lt enough))
    obtain ⟨first, others⟩ := List.forall_mem_cons.mp starts
    obtain ⟨read, readOthers⟩ := List.forall_mem_cons.mp reads
    rw [List.map_cons, List.flatMap_cons, List.append_assoc, List.cons_append, foldElements,
      nextElement_comma (first.append _)]
    -- A comma or the bracket follows, so the element has ended.
    show (item acc _ >>= fun p => foldElements item fuel false p.1 p.2) = _
    rw [read acc _ (closes_tail (closes_bracket rest) _), List.foldlM_cons]
    cases put acc x with
    | error e => rfl
    | ok acc => exact ih others readOthers (Nat.lt_of_succ_lt_succ enough) acc

/-- The printed elements of a list are read one after the other. -/
theorem foldElements_print {item : σ → List Char → Except Fault (σ × List Char)}
    (starts : ∀ x ∈ xs, Starts (write x))
    (reads : ∀ x ∈ xs, ∀ acc rest, Closes rest →
      item acc (write x ++ rest) = (put acc x).map (·, rest)) (acc : σ) (rest : List Char) :
    let s := commas (xs.map write) ++ ']' :: rest
    foldElements item (s.length + 1) true acc s = (xs.foldlM put acc).map (·, rest) := by
  intro s
  cases xs with
  | nil => rfl
  | cons x xs =>
    obtain ⟨first, others⟩ := List.forall_mem_cons.mp starts
    obtain ⟨read, readOthers⟩ := List.forall_mem_cons.mp reads
    have text : s = write x ++ ((xs.map write).flatMap (',' :: ·) ++ ']' :: rest) := by
      rw [← List.append_assoc, ← commas_cons]
      rfl
    -- Each element takes a comma, so the text is long enough.
    have enough : xs.length < s.length := by
      have tail := length_le_tail (xs.map write)
      rw [List.length_map] at tail
      rw [text, List.length_append, List.length_append, List.length_cons]
      omega
    generalize s.length = fuel at enough ⊢
    rw [text, foldElements, nextElement_first (first.append _)]
    show (item acc _ >>= fun p => foldElements item fuel false p.1 p.2) = _
    rw [read acc _ (closes_tail (closes_bracket rest) _), List.foldlM_cons]
    cases put acc x with
    | error e => rfl
    | ok acc => exact foldElements_tail others readOthers enough acc rest

theorem foldlM_collect (xs acc : List α) :
    xs.foldlM (fun acc x => (Except.ok (x :: acc) : Except Fault (List α))) acc
      = .ok (xs.reverse ++ acc) := by
  induction xs generalizing acc with
  | nil => rfl
  | cons x xs ih =>
    show xs.foldlM _ (x :: acc) = _
    rw [ih, List.reverse_cons, List.append_assoc]
    rfl

/-- The printed elements of a list are collected, the last of them first. -/
theorem foldElements_collect {read : List Char → Except Fault (α × List Char)}
    (starts : ∀ x ∈ xs, Starts (write x))
    (reads : ∀ x ∈ xs, ∀ rest, Closes rest → read (write x ++ rest) = .ok (x, rest))
    (rest : List Char) :
    let s := commas (xs.map write) ++ ']' :: rest
    foldElements (fun items s => (read s).map fun p => (p.1 :: items, p.2)) (s.length + 1) true [] s
      = .ok (xs.reverse, rest) := by
  intro s
  have all : ∀ x ∈ xs, ∀ (acc : List α) rest, Closes rest →
      (read (write x ++ rest)).map (fun p => (p.1 :: acc, p.2))
        = (Except.ok (x :: acc) : Except Fault (List α)).map (·, rest) := by
    intro x hx acc rest closed
    rw [reads x hx rest closed]
    rfl
  rw [foldElements_print starts all [] rest, foldlM_collect, List.append_nil]
  rfl

/-- A field as it is printed. -/
def printField (name : String) (text : List Char) : List Char := printText name ++ ':' :: text

variable {name : α → String}

theorem foldFields_tail {entry : σ → String → List Char → Except Fault (σ × List Char)}
    (reads : ∀ x ∈ xs, ∀ acc rest, Closes rest →
      entry acc (name x) (':' :: (write x ++ rest)) = (put acc x).map (·, rest))
    {fuel : Nat} (enough : xs.length < fuel) (acc : σ) (rest : List Char) :
    foldFields entry fuel false acc
        ((xs.map fun x => printField (name x) (write x)).flatMap (',' :: ·) ++ '\x7d' :: rest)
      = (xs.foldlM put acc).map (·, rest) := by
  induction xs generalizing fuel acc with
  | nil =>
    obtain ⟨fuel, rfl⟩ := Nat.exists_eq_succ_of_ne_zero (Nat.ne_of_gt enough)
    rfl
  | cons x xs ih =>
    obtain ⟨fuel, rfl⟩ := Nat.exists_eq_succ_of_ne_zero (Nat.ne_of_gt (Nat.zero_lt_of_lt enough))
    obtain ⟨read, others⟩ := List.forall_mem_cons.mp reads
    rw [List.map_cons, List.flatMap_cons, List.append_assoc, printField, List.cons_append,
      List.append_assoc, foldFields, nextKey_comma]
    show (entry acc (name x) (':' :: (write x ++ _)) >>= fun p =>
      foldFields entry fuel false p.1 p.2) = _
    rw [read acc _ (closes_tail (closes_brace rest) _), List.foldlM_cons]
    cases put acc x with
    | error e => rfl
    | ok acc => exact ih others (Nat.lt_of_succ_lt_succ enough) acc

/-- The printed fields of an object are read one after the other. -/
theorem foldFields_print {entry : σ → String → List Char → Except Fault (σ × List Char)}
    (reads : ∀ x ∈ xs, ∀ acc rest, Closes rest →
      entry acc (name x) (':' :: (write x ++ rest)) = (put acc x).map (·, rest))
    (acc : σ) (rest : List Char) :
    let s := commas (xs.map fun x => printField (name x) (write x)) ++ '\x7d' :: rest
    foldFields entry (s.length + 1) true acc s = (xs.foldlM put acc).map (·, rest) := by
  intro s
  cases xs with
  | nil => rfl
  | cons x xs =>
    obtain ⟨read, others⟩ := List.forall_mem_cons.mp reads
    let tail :=
      (xs.map fun x => printField (name x) (write x)).flatMap (',' :: ·) ++ '\x7d' :: rest
    have text : s = printText (name x) ++ (':' :: (write x ++ tail)) := by
      show commas (printField (name x) (write x) :: _) ++ '\x7d' :: rest = _
      rw [commas_cons, printField]
      simp [tail]
    have enough : xs.length < s.length := by
      have shorter := length_le_tail (xs.map fun x => printField (name x) (write x))
      rw [List.length_map] at shorter
      rw [text]
      simp only [tail, List.length_append, List.length_cons]
      omega
    generalize s.length = fuel at enough ⊢
    rw [text, foldFields, nextKey_first]
    show (entry acc (name x) _ >>= fun p => foldFields entry fuel false p.1 p.2) = _
    rw [read acc _ (closes_tail (closes_brace rest) _), List.foldlM_cons]
    cases put acc x with
    | error e => rfl
    | ok acc => exact foldFields_tail others enough acc rest

end Folds

end Json

end Cratewright
