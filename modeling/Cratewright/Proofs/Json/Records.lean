/-
Records are read as they were written.

A record is written as an object with one field after the other, each of which sets its part of
the record. Both ways of reading, from text and from a value, set the same parts in the same
order; and what they keep at each field they keep for the whole record:

* `Json.Layout.read_print`, `Json.Layout.decode_object` — records that were written;
* `Json.Layout.read_induction`, `Json.Layout.decode_induction` — records that were read;
* `Json.readList_print`, `Json.readMap_fields`, `Json.asMap_fields` — their parts.
-/
import Cratewright.Json.Record
import Cratewright.Proofs.Json.Values

namespace Cratewright.Json

/-! ### Steps over a list -/

section Steps

variable {σ α β : Type} {xs : List α} {f : σ → α → Except Fault σ}

theorem foldlM_congr {g : σ → α → Except Fault σ} (h : ∀ x ∈ xs, ∀ acc, f acc x = g acc x)
    (acc : σ) : xs.foldlM f acc = xs.foldlM g acc := by
  induction xs generalizing acc with
  | nil => rfl
  | cons x xs ih =>
    obtain ⟨first, others⟩ := List.forall_mem_cons.mp h
    rw [List.foldlM_cons, List.foldlM_cons, first]
    exact congrArg (g acc x >>= ·) (funext fun acc => ih others acc)

/-- What every step keeps, all of them keep. -/
theorem foldlM_induction (P : σ → Prop)
    (step : ∀ x ∈ xs, ∀ acc out, P acc → f acc x = .ok out → P out) {acc out : σ}
    (start : P acc) (h : xs.foldlM f acc = .ok out) : P out := by
  induction xs generalizing acc with
  | nil =>
    cases h
    exact start
  | cons x xs ih =>
    obtain ⟨first, others⟩ := List.forall_mem_cons.mp step
    rw [List.foldlM_cons] at h
    obtain ⟨next, one, rest⟩ := Except.bind_eq_ok_iff.mp h
    exact ih others (first acc next start one) rest

end Steps

/-! ### Parts of records, from text -/

section FromText

variable {rest : List Char}

theorem readString_print (s : String) (rest : List Char) :
    readString ((text s).print ++ rest) = .ok (s, rest) := by
  rw [print, printText_append]
  exact readText_printed s rest

theorem readFlag_print (b : Bool) (rest : List Char) :
    readFlag ((flag b).print ++ rest) = .ok (b, rest) := by
  cases b <;> rfl

theorem readOption_null {α : Type} (item : List Char → Except Fault (α × List Char))
    (rest : List Char) : readOption item (null.print ++ rest) = .ok (none, rest) :=
  rfl

theorem readOption_text {s : String} :
    readOption readString ((text s).print ++ rest) = .ok (some s, rest) := by
  show (readString ((text s).print ++ rest)).map _ = _
  rw [readString_print]
  rfl

theorem readVariant_print {α : Type} {known : List (String × α)} {name : String} {a : α}
    (h : variant? known name = .ok a) (depth : Nat) :
    readVariant known depth ((text name).print ++ rest) = .ok (a, rest) := by
  rw [print, printText_append]
  show (readText (name.toList.flatMap escape ++ '"' :: rest) >>= fun p =>
    variant? known p.1 >>= fun a => .ok (a, p.2)) = _
  rw [readText_printed]
  show (variant? known name >>= fun a => .ok (a, rest)) = _
  rw [h]
  rfl

/-- A list is read item by item. -/
theorem readList_print {α : Type} {item : Nat → List Char → Except Fault (α × List Char)}
    {write : α → Json} {depth : Nat} {as : List α} (starts : ∀ a ∈ as, Starts (write a).print)
    (reads : ∀ a ∈ as, ∀ rest, Closes rest →
      item depth ((write a).print ++ rest) = .ok (a, rest)) :
    readList item (depth + 1) ((list (as.map write)).print ++ rest) = .ok (as, rest) := by
  have elements := foldElements_collect starts reads rest
  rw [print_list, List.map_map, List.cons_append, List.append_assoc]
  show (foldElements _ _ true [] _ >>= fun p => .ok (p.1.reverse, p.2)) = _
  refine (congrArg (· >>= _) elements).trans ?_
  show Except.ok (as.reverse.reverse, rest) = _
  rw [List.reverse_reverse]

section Maps

variable {κ α : Type} [Ord κ] [Std.TransOrd κ] {key : String → Except Fault κ}

/-- Insertions one after the other make up a map. -/
theorem foldlM_insert {ε : Type} (k : ε → κ) (v : ε → α) (l : List ε) :
    l.foldlM (fun m e => (Except.ok (m.insert (k e) (v e)) : Except Fault (SortedMap κ α)))
      SortedMap.empty = .ok (SortedMap.ofList (l.map fun e => (k e, v e))) := by
  have all (m : SortedMap κ α) :
      l.foldlM (fun m e => (Except.ok (m.insert (k e) (v e)) : Except Fault (SortedMap κ α))) m
        = .ok (l.foldl (fun m e => m.insert (k e) (v e)) m) := by
    induction l generalizing m with
    | nil => rfl
    | cons e l ih => exact ih (m.insert (k e) (v e))
  rw [all, SortedMap.ofList, List.foldl_map]

/-- Reads one entry of a map. -/
def readPair (key : String → Except Fault κ)
    (item : Nat → List Char → Except Fault (α × List Char)) (depth : Nat) (m : SortedMap κ α)
    (name : String) (s : List Char) : Except Fault (SortedMap κ α × List Char) := do
  let k ← key name
  let (v, s) ← item depth (← expectColon s)
  return (m.insert k v, s)

/-- A map is read entry by entry, whatever the order of its entries. -/
theorem readMap_fields {ε : Type} {item : Nat → List Char → Except Fault (α × List Char)}
    {depth : Nat} {l : List ε} {name : ε → String} {write : ε → Json} (k : ε → κ) (v : ε → α)
    (keys : ∀ e ∈ l, key (name e) = .ok (k e))
    (reads : ∀ e ∈ l, ∀ rest, Closes rest →
      item depth ((write e).print ++ rest) = .ok (v e, rest)) :
    readMap key item (depth + 1) ((object (l.map fun e => (name e, write e))).print ++ rest)
      = .ok (SortedMap.ofList (l.map fun e => (k e, v e)), rest) := by
  have entries : ∀ e ∈ l, ∀ acc rest, Closes rest →
      readPair key item depth acc (name e) (':' :: ((write e).print ++ rest))
        = (Except.ok (acc.insert (k e) (v e)) : Except Fault _).map (·, rest) := by
    intro e he acc rest closed
    rw [readPair, keys e he, expectColon_cons]
    show (item depth ((write e).print ++ rest) >>= fun p => .ok (acc.insert (k e) p.1, p.2)) = _
    rw [reads e he rest closed]
    rfl
  have fields := foldFields_print entries SortedMap.empty rest
  rw [foldlM_insert] at fields
  rw [print_object, List.map_map, List.cons_append, List.append_assoc]
  exact fields

theorem readMap_print [Std.LawfulEqOrd κ] [DecidableEq κ]
    {item : Nat → List Char → Except Fault (α × List Char)} {depth : Nat} {m : SortedMap κ α}
    (name : κ → String) (write : α → Json) (keys : ∀ e ∈ m.entries, key (name e.1) = .ok e.1)
    (reads : ∀ e ∈ m.entries, ∀ rest, Closes rest →
      item depth ((write e.2).print ++ rest) = .ok (e.2, rest)) :
    readMap key item (depth + 1)
        ((object (m.entries.map fun e => (name e.1, write e.2))).print ++ rest)
      = .ok (m, rest) := by
  rw [readMap_fields Prod.fst Prod.snd keys reads, List.map_id', SortedMap.ofList_entries]

/-- Every entry of a map that was read has been read on its own. -/
theorem exists_of_readMap {item : Nat → List Char → Except Fault (α × List Char)} {depth : Nat}
    {s : List Char} {m : SortedMap κ α} (h : readMap key item (depth + 1) s = .ok (m, rest)) :
    ∀ e ∈ m.entries,
      (∃ name, key name = .ok e.1) ∧ ∃ s rest, item depth s = .ok (e.2, rest) := by
  rw [readMap] at h
  split at h
  · cases h
  split at h
  · refine foldFields_induction (fun m : SortedMap κ α => ∀ e ∈ m.entries,
      (∃ name, key name = .ok e.1) ∧ ∃ s rest, item depth s = .ok (e.2, rest)) ?_ ?_ h
    · intro acc name s out rest known one
      obtain ⟨k, hk, one⟩ := Except.bind_eq_ok_iff.mp one
      obtain ⟨s', -, one⟩ := Except.bind_eq_ok_iff.mp one
      obtain ⟨⟨v, s''⟩, hv, one⟩ := Except.bind_eq_ok_iff.mp one
      cases one
      intro e he
      rcases SortedMap.mem_insertEntry he with rfl | he
      · exact ⟨⟨name, hk⟩, s', _, hv⟩
      · exact known e he
    · exact fun e he => by cases he
  · cases h

end Maps

end FromText

/-! ### Parts of records, from a value -/

/-- The items of a list, or the values of an object's fields. -/
def parts : Json → List Json
  | list items => items
  | object fields => fields.map (·.2)
  | _ => []

theorem Fits.parts {depth : Nat} {v : Json} (h : Fits (depth + 1) v) :
    ∀ w ∈ v.parts, Fits depth w := by
  intro w hw
  cases v with
  | list items => exact fits_list.mp h w hw
  | object fields =>
    obtain ⟨e, he, rfl⟩ := List.mem_map.mp hw
    exact fits_object.mp h e he
  | _ => cases hw

section FromValue

variable {α : Type} {item : Json → Except Fault α}

theorem asList_map {write : α → Json} {as : List α} (h : ∀ a ∈ as, item (write a) = .ok a) :
    asList item (list (as.map write)) = .ok as := by
  show (as.map write).mapM item = .ok as
  induction as with
  | nil => rfl
  | cons a as ih =>
    obtain ⟨first, others⟩ := List.forall_mem_cons.mp h
    rw [List.map_cons, List.mapM_cons, first, ih others]
    rfl

theorem exists_of_asList {v : Json} {as : List α} (h : asList item v = .ok as) :
    ∀ a ∈ as, ∃ w ∈ v.parts, item w = .ok a := by
  cases v with
  | list items =>
    have all : items.mapM item = .ok as := h
    clear h
    show ∀ a ∈ as, ∃ w ∈ items, item w = .ok a
    induction items generalizing as with
    | nil =>
      cases all
      exact fun a ha => by cases ha
    | cons w items ih =>
      rw [List.mapM_cons] at all
      obtain ⟨a, first, all⟩ := Except.bind_eq_ok_iff.mp all
      obtain ⟨as, others, all⟩ := Except.bind_eq_ok_iff.mp all
      cases all
      intro b hb
      rcases List.mem_cons.mp hb with rfl | hb
      · exact ⟨w, List.mem_cons_self .., first⟩
      · obtain ⟨x, hx, read⟩ := ih others b hb
        exact ⟨x, List.mem_cons_of_mem w hx, read⟩
  | _ => cases h

theorem eq_some_of_asOption {v : Json} {a : α} (h : asOption item v = .ok (some a)) :
    item v = .ok a := by
  cases v with
  | null => cases h
  | _ =>
    obtain ⟨b, read, same⟩ := Except.map_eq_ok_iff.mp h
    cases same
    exact read

variable {κ : Type} [Ord κ] [Std.TransOrd κ] {key : String → Except Fault κ}

/-- The entries of an object make up a map, whatever their order. -/
theorem asMap_fields {ε : Type} {l : List ε} {name : ε → String} {write : ε → Json} (k : ε → κ)
    (v : ε → α) (keys : ∀ e ∈ l, key (name e) = .ok (k e))
    (items : ∀ e ∈ l, item (write e) = .ok (v e)) :
    asMap key item (object (l.map fun e => (name e, write e)))
      = .ok (SortedMap.ofList (l.map fun e => (k e, v e))) := by
  have steps : ∀ e ∈ l, ∀ acc : SortedMap κ α,
      (do return acc.insert (← key (name e)) (← item (write e)) : Except Fault (SortedMap κ α))
        = .ok (acc.insert (k e) (v e)) := by
    intro e he acc
    rw [keys e he, items e he]
    rfl
  show (l.map fun e => (name e, write e)).foldlM _ SortedMap.empty = _
  rw [List.foldlM_map, foldlM_congr steps, foldlM_insert]

theorem asMap_object [Std.LawfulEqOrd κ] [DecidableEq κ] {m : SortedMap κ α} (name : κ → String)
    (write : α → Json) (keys : ∀ e ∈ m.entries, key (name e.1) = .ok e.1)
    (items : ∀ e ∈ m.entries, item (write e.2) = .ok e.2) :
    asMap key item (object (m.entries.map fun e => (name e.1, write e.2))) = .ok m := by
  rw [asMap_fields Prod.fst Prod.snd keys items, List.map_id', SortedMap.ofList_entries]

theorem exists_of_asMap {v : Json} {m : SortedMap κ α} (h : asMap key item v = .ok m) :
    ∀ e ∈ m.entries, (∃ name, key name = .ok e.1) ∧ ∃ w ∈ v.parts, item w = .ok e.2 := by
  cases v with
  | object fields =>
    refine foldlM_induction (fun m : SortedMap κ α => ∀ e ∈ m.entries,
      (∃ name, key name = .ok e.1) ∧ ∃ w ∈ fields.map (·.2), item w = .ok e.2) ?_ ?_ h
    · intro d hd acc out known one
      obtain ⟨k, hk, one⟩ := Except.bind_eq_ok_iff.mp one
      obtain ⟨a, ha, one⟩ := Except.bind_eq_ok_iff.mp one
      cases one
      intro e he
      rcases SortedMap.mem_insertEntry he with rfl | he
      · exact ⟨⟨d.1, hk⟩, d.2, List.mem_map.mpr ⟨d, hd, rfl⟩, ha⟩
      · exact known e he
    · exact fun e he => by cases he
  | _ => cases h

end FromValue

/-! ### Records that were written -/

namespace Layout

variable {σ ρ : Type}

/-- A field as it is written, and the part of the record that it sets. -/
structure Entry (σ : Type) where
  name : String
  value : Json
  set : σ → σ

/-- The entry of a field that puts `a` into the record. -/
def Entry.of {α : Type} (name : String) (value : Json) (set : σ → α → σ) (a : α) : Entry σ :=
  ⟨name, value, fun acc => set acc a⟩

@[simp] theorem Entry.name_of {α : Type} (name : String) (value : Json) (set : σ → α → σ) (a : α) :
    (Entry.of name value set a).name = name :=
  rfl

/-- The entry of a field that is left out if there is nothing to put into the record. -/
def Entry.optional {α : Type} (name : String) (write : α → Json) (set : σ → Option α → σ)
    (a : Option α) : List (Entry σ) :=
  (a.map fun v => Entry.of name (write v) set (some v)).toList

/-- The object of the given fields. -/
def objectOf (entries : List (Entry σ)) : Json := object (entries.map fun x => (x.name, x.value))

/-- The record after the given fields. -/
def setAll (entries : List (Entry σ)) (acc : σ) : σ := entries.foldl (fun acc x => x.set acc) acc

theorem setAll_append (xs ys : List (Entry σ)) (acc : σ) :
    setAll (xs ++ ys) acc = setAll ys (setAll xs acc) :=
  List.foldl_append

section Optional

variable {α : Type} {name : String} {write : α → Json} {set : σ → Option α → σ} {a : Option α}

theorem forall_mem_optional {p : Entry σ → Prop} :
    (∀ x ∈ Entry.optional name write set a, p x)
      ↔ ∀ v, a = some v → p (.of name (write v) set (some v)) := by
  cases a <;> simp [Entry.optional]

theorem sublist_optional (name : String) (write : α → Json) (set : σ → Option α → σ)
    (a : Option α) : ((Entry.optional name write set a).map (·.name)).Sublist [name] := by
  cases a with
  | none => exact List.nil_sublist _
  | some v => exact List.Sublist.refl _

/-- A field that is left out leaves the record as it is, so nothing is lost if there was nothing
before. -/
theorem setAll_optional (a : Option α) {acc : σ} (h : set acc none = acc) :
    setAll (Entry.optional name write set a) acc = set acc a := by
  cases a with
  | none => exact h.symm
  | some v => rfl

end Optional

/-- Sets one field that has not been seen. -/
def setOnce (acc : σ × List String) (x : Entry σ) : Except Fault (σ × List String) :=
  if acc.2.contains x.name then .error (.duplicateField x.name)
  else .ok (x.set acc.1, x.name :: acc.2)

theorem foldlM_setOnce {entries : List (Entry σ)} (distinct : (entries.map (·.name)).Nodup)
    (acc : σ) {seen : List String} (fresh : ∀ x ∈ entries, x.name ∉ seen) :
    entries.foldlM setOnce (acc, seen)
      = .ok (setAll entries acc, (entries.map (·.name)).reverse ++ seen) := by
  induction entries generalizing acc seen with
  | nil => rfl
  | cons x entries ih =>
    obtain ⟨first, others⟩ := List.forall_mem_cons.mp fresh
    obtain ⟨new, distinct⟩ := List.nodup_cons.mp distinct
    -- The names differ, so setting one field does not make another a duplicate.
    have later : ∀ y ∈ entries, y.name ∉ x.name :: seen := by
      intro y hy mem
      rcases List.mem_cons.mp mem with same | mem
      · exact new (List.mem_map.mpr ⟨y, hy, same⟩)
      · exact others y hy mem
    have once : setOnce (acc, seen) x = .ok (x.set acc, x.name :: seen) :=
      if_neg (by simpa using first)
    rw [List.foldlM_cons, once]
    show entries.foldlM setOnce (x.set acc, x.name :: seen) = _
    rw [ih distinct _ later, List.map_cons, List.reverse_cons, List.append_assoc]
    rfl

theorem complete_eq (l : Layout σ ρ) {seen : List String}
    (h : ∀ f ∈ l.fields, f.required = true → f.name ∈ seen) (acc : σ) :
    l.complete seen acc = .ok acc := by
  have none : l.fields.find? (fun f => f.required && ! seen.contains f.name) = none := by
    rw [List.find?_eq_none]
    intro f hf missing
    rw [Bool.and_eq_true, Bool.not_eq_true'] at missing
    have mem := h f hf missing.1
    rw [List.contains_iff_mem.mpr mem] at missing
    cases missing.2
  rw [complete, none]

/-- The layout reads the field from text as it was printed. -/
def Reads (l : Layout σ (FromText σ)) (depth : Nat) (x : Entry σ) : Prop :=
  ∃ f, l.field? x.name = some f ∧
    ∀ acc rest, Closes rest → f.read acc depth (x.value.print ++ rest) = .ok (x.set acc, rest)

/-- The layout reads the field from its value. -/
def Decodes (l : Layout σ (FromValue σ)) (x : Entry σ) : Prop :=
  ∃ f, l.field? x.name = some f ∧ ∀ acc, f.read acc x.value = .ok (x.set acc)

/-- The fields are those of a record: no two are the same, and no required one is missing. -/
structure IsRecord (l : Layout σ ρ) (entries : List (Entry σ)) : Prop where
  distinct : (entries.map (·.name)).Nodup
  required : ∀ f ∈ l.fields, f.required = true → f.name ∈ entries.map (·.name)

theorem IsRecord.complete_eq {l : Layout σ ρ} {entries : List (Entry σ)}
    (h : l.IsRecord entries) (acc : σ) :
    l.complete ((entries.map (·.name)).reverse ++ []) acc = .ok acc := by
  refine Layout.complete_eq l (fun f hf required => ?_) acc
  rw [List.append_nil, List.mem_reverse]
  exact h.required f hf required

theorem IsRecord.foldlM_setOnce {l : Layout σ ρ} {entries : List (Entry σ)}
    (h : l.IsRecord entries) (acc : σ) :
    entries.foldlM setOnce (acc, [])
      = .ok (setAll entries acc, (entries.map (·.name)).reverse ++ []) :=
  Layout.foldlM_setOnce h.distinct acc fun _ _ mem => by cases mem

/-- A record that was printed is read. -/
theorem read_print {l : Layout σ (FromText σ)} {depth : Nat} {entries : List (Entry σ)}
    (reads : ∀ x ∈ entries, l.Reads depth x) (record : l.IsRecord entries) (rest : List Char) :
    l.read (depth + 1) ((objectOf entries).print ++ rest)
      = .ok (setAll entries l.start, rest) := by
  have steps : ∀ x ∈ entries, ∀ acc rest, Closes rest →
      l.readField depth acc x.name (':' :: (x.value.print ++ rest))
        = (setOnce acc x).map (·, rest) := by
    intro x hx acc rest closed
    obtain ⟨f, known, read⟩ := reads x hx
    rw [readField, known, setOnce]
    dsimp only
    split
    · rfl
    · rw [expectColon_cons]
      show (f.read acc.1 depth (x.value.print ++ rest) >>= fun p => _) = _
      rw [read acc.1 rest closed]
      rfl
  have fields := foldFields_print steps (l.start, []) rest
  rw [record.foldlM_setOnce] at fields
  rw [objectOf, print_object, List.map_map, List.cons_append, List.append_assoc]
  show (foldFields (l.readField depth) _ true (l.start, []) _ >>= fun p =>
    l.complete p.1.2 p.1.1 >>= fun a => .ok (a, p.2)) = _
  refine (congrArg (· >>= _) fields).trans ?_
  show (l.complete _ (setAll entries l.start) >>= fun a => .ok (a, rest)) = _
  rw [record.complete_eq]
  rfl

/-- A record that was written is read from its value. -/
theorem decode_object {l : Layout σ (FromValue σ)} {entries : List (Entry σ)}
    (decodes : ∀ x ∈ entries, l.Decodes x) (record : l.IsRecord entries) :
    l.decode (objectOf entries) = .ok (setAll entries l.start) := by
  have steps : ∀ x ∈ entries, ∀ acc, l.decodeField acc (x.name, x.value) = setOnce acc x := by
    intro x hx acc
    obtain ⟨f, known, read⟩ := decodes x hx
    rw [decodeField, known, setOnce]
    dsimp only
    split
    · rfl
    · rw [read]
      rfl
  show ((entries.map fun x => (x.name, x.value)).foldlM l.decodeField (l.start, []) >>= fun p =>
    l.complete p.2 p.1) = _
  rw [List.foldlM_map, foldlM_congr steps, record.foldlM_setOnce]
  exact record.complete_eq _

/-- The fields are written so that they are read as the record again. -/
structure Writes (l : Layout σ (FromValue σ)) (depth : Nat) (entries : List (Entry σ)) (s : σ) :
    Prop where
  fields : ∀ x ∈ entries, l.Decodes x ∧ Faithful depth x.value
  record : l.IsRecord entries
  whole : setAll entries l.start = s

theorem Writes.decode {l : Layout σ (FromValue σ)} {depth : Nat} {entries : List (Entry σ)} {s : σ}
    (h : l.Writes depth entries s) : l.decode (objectOf entries) = .ok s := by
  rw [decode_object (fun x hx => (h.fields x hx).1) h.record, h.whole]

/-! ### Records that were read -/

theorem field?_eq_some {l : Layout σ ρ} {name : String} {f : Field σ ρ}
    (h : l.field? name = some f) : f ∈ l.fields ∧ f.name = name := by
  have found := List.find?_some h
  exact ⟨List.mem_of_find?_eq_some h, beq_iff_eq.mp found⟩

theorem required_of_complete {l : Layout σ ρ} {seen : List String} {acc out : σ}
    (h : l.complete seen acc = .ok out) :
    out = acc ∧ ∀ f ∈ l.fields, f.required = true → f.name ∈ seen := by
  rw [complete] at h
  split at h
  · cases h
  · next none =>
    cases h
    refine ⟨rfl, fun f hf required => ?_⟩
    have present := List.find?_eq_none.mp none f hf
    rw [required, Bool.true_and, Bool.not_eq_true', Bool.not_eq_false] at present
    exact List.contains_iff_mem.mp present

theorem not_required_of_absent {l : Layout σ ρ} {index : Nat} {fs : List (Field σ ρ)}
    (h : l.absent index fs = .ok ()) : ∀ f ∈ fs, f.required = false := by
  induction fs generalizing index with
  | nil => exact fun f hf => by cases hf
  | cons f fs ih =>
    rw [absent] at h
    split at h
    · cases h
    · next optional => exact List.forall_mem_cons.mpr ⟨Bool.eq_false_iff.mpr optional, ih h⟩

/-- What every field keeps, a list keeps that gives fields in order; it leaves out only fields
that are not required. -/
theorem decodePositions_induction {l : Layout σ (FromValue σ)} {depth length index : Nat}
    (P : List String → σ → Prop) {fs : List (Field σ (FromValue σ))}
    (step : ∀ f ∈ fs, ∀ seen acc v out, P seen acc → Fits depth v →
      f.read acc v = .ok out → P (f.name :: seen) out)
    {items : List Json} (fits : ∀ v ∈ items, Fits depth v) {seen : List String} {acc out : σ}
    (start : P seen acc) (h : l.decodePositions length index fs acc items = .ok out) :
    ∃ all, seen ⊆ all ∧ P all out ∧ ∀ f ∈ fs, f.required = true → f.name ∈ all := by
  induction fs generalizing items index seen acc with
  | nil =>
    cases items with
    | nil =>
      cases h
      exact ⟨seen, List.Subset.refl seen, start, fun f hf => by cases hf⟩
    | cons v items => cases h
  | cons f fs ih =>
    cases items with
    | nil =>
      -- The list ends here, so what is left of the fields may be absent.
      obtain ⟨_, absent, rfl⟩ := Except.map_eq_ok_iff.mp h
      refine ⟨seen, List.Subset.refl seen, start, fun g hg required => ?_⟩
      rw [not_required_of_absent absent g hg] at required
      cases required
    | cons v items =>
      obtain ⟨acc', one, rest⟩ := Except.bind_eq_ok_iff.mp h
      obtain ⟨first, others⟩ := List.forall_mem_cons.mp step
      obtain ⟨fitsFirst, fitsOthers⟩ := List.forall_mem_cons.mp fits
      obtain ⟨all, more, kept, required⟩ :=
        ih others fitsOthers (first seen acc v acc' start fitsFirst one) rest
      obtain ⟨mem, more⟩ := List.cons_subset.mp more
      exact ⟨all, more, kept, List.forall_mem_cons.mpr ⟨fun _ => mem, required⟩⟩

/-- What every field keeps, a record keeps that is read from a value. -/
theorem decode_induction {l : Layout σ (FromValue σ)} {depth : Nat} (P : List String → σ → Prop)
    (start : P [] l.start)
    (step : ∀ f ∈ l.fields, ∀ seen acc v out, P seen acc → Fits depth v →
      f.read acc v = .ok out → P (f.name :: seen) out)
    {v : Json} (fits : Fits (depth + 1) v) {out : σ} (h : l.decode v = .ok out) :
    ∃ seen, P seen out ∧ ∀ f ∈ l.fields, f.required = true → f.name ∈ seen := by
  cases v with
  | object fields =>
    obtain ⟨⟨acc, seen⟩, all, complete⟩ := Except.bind_eq_ok_iff.mp h
    obtain ⟨rfl, required⟩ := required_of_complete complete
    refine ⟨seen, ?_, required⟩
    refine foldlM_induction (fun p : σ × List String => P p.2 p.1) ?_ start all
    intro e he acc out known one
    rw [decodeField] at one
    split at one
    · -- A field of no known name changes nothing.
      cases one
      exact known
    · next f found =>
      obtain ⟨mem, name⟩ := field?_eq_some found
      split at one
      · cases one
      · obtain ⟨a, read, same⟩ := Except.map_eq_ok_iff.mp one
        cases same
        rw [← name]
        exact step f mem _ _ _ _ known (fits_object.mp fits e he) read
  | list items =>
    obtain ⟨all, -, kept, required⟩ :=
      decodePositions_induction P step (fits_list.mp fits) start h
    exact ⟨all, kept, required⟩
  | _ => cases h

/-- What every field keeps, a record keeps that is read from text. -/
theorem read_induction {l : Layout σ (FromText σ)} {depth : Nat} (P : σ → Prop)
    (start : P l.start)
    (step : ∀ f ∈ l.fields, ∀ acc s out rest, P acc → f.read acc depth s = .ok (out, rest) → P out)
    {s rest : List Char} {out : σ} (h : l.read (depth + 1) s = .ok (out, rest)) : P out := by
  -- A list gives the fields in order; the induction is on those that are left.
  have positions : ∀ {fs : List (Field σ (FromText σ))}, (∀ f ∈ fs, f ∈ l.fields) →
      ∀ {index acc s}, P acc → l.readPositions depth index fs acc s = .ok (out, rest) → P out := by
    intro fs
    induction fs with
    | nil =>
      intro _ index acc s known h
      obtain ⟨_, -, same⟩ := Except.map_eq_ok_iff.mp h
      cases same
      exact known
    | cons f fs ih =>
      intro mem index acc s known h
      obtain ⟨⟨more, s'⟩, -, h⟩ := Except.bind_eq_ok_iff.mp h
      cases more with
      | false =>
        obtain ⟨_, -, same⟩ := Except.bind_eq_ok_iff.mp h
        cases same
        exact known
      | true =>
        obtain ⟨⟨acc', s''⟩, one, others⟩ := Except.bind_eq_ok_iff.mp h
        have first := step f (mem f (List.mem_cons_self ..)) acc s' acc' s'' known one
        exact ih (fun g hg => mem g (List.mem_cons_of_mem f hg)) first others
  rw [read.eq_def] at h
  split at h
  · cases h
  split at h
  · exact positions (fun f hf => hf) start h
  split at h
  · obtain ⟨⟨⟨acc, seen⟩, s'⟩, all, h⟩ := Except.bind_eq_ok_iff.mp h
    obtain ⟨final, complete, same⟩ := Except.bind_eq_ok_iff.mp h
    cases same
    rw [(required_of_complete complete).1]
    refine foldFields_induction (fun p : σ × List String => P p.1) ?_ start all
    intro acc key s out rest known one
    rw [readField] at one
    split at one
    · obtain ⟨_, -, one⟩ := Except.bind_eq_ok_iff.mp one
      obtain ⟨_, -, same⟩ := Except.bind_eq_ok_iff.mp one
      cases same
      exact known
    · next f found =>
      split at one
      · cases one
      · obtain ⟨s', -, one⟩ := Except.bind_eq_ok_iff.mp one
        obtain ⟨⟨a, s''⟩, read, one⟩ := Except.bind_eq_ok_iff.mp one
        cases one
        exact step f (field?_eq_some found).1 _ _ _ _ known read
  · cases h

end Layout

end Cratewright.Json
