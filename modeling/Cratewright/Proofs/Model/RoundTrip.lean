/-
Models are read as they were written.

A shape is read by its type, wherever that stands among the other fields. A model that was read,
and the settings of a generation, are written to documents from which they are read again:

* `Shape.isStored_of_read`, `Model.isStored_of_parse` — what reading leaves behind;
* `Shape.read_toJson`, `Model.parse_toJson` — what is stored so is written and read again;
* `parse_render_toJson` — models and settings.
-/
import Cratewright.Proofs.Model.Parts
import Cratewright.Proofs.Settings.RoundTrip

namespace Cratewright

open Json Layout

/-! ### Shapes -/

namespace Shape

/-- The shape is written and read again. -/
def IsStored (depth : Nat) : Shape → Prop
  | service s => s.IsStored (depth + 2)
  | resource s => s.IsStored (depth + 2)
  | operation s => s.IsStored (depth + 2)
  | struct s => s.IsStored depth
  | other => True

/-- No trait of the shape or of one of its members has a floating-point number in its value. -/
def FloatFree : Shape → Prop
  | service s => Traits.FloatFree s.traits
  | resource s => Traits.FloatFree s.traits
  | operation s => Traits.FloatFree s.traits
  | struct s => (∀ e ∈ s.members.entries, Traits.FloatFree e.2.traits) ∧ Traits.FloatFree s.traits
  | other => True

variable {depth : Nat} {s : Shape} {rest : List Char}

theorem isStored_of_decode {kind : ShapeKind} {v : Json} (fits : Fits (depth + 4) v)
    (h : decode kind v = .ok s) : s.IsStored depth := by
  cases kind with
  | service =>
    obtain ⟨s, hs, rfl⟩ := Except.map_eq_ok_iff.mp h
    exact ServiceShape.isStored_of_decode fits hs
  | resource =>
    obtain ⟨s, hs, rfl⟩ := Except.map_eq_ok_iff.mp h
    exact ResourceShape.isStored_of_decode fits hs
  | operation =>
    obtain ⟨s, hs, rfl⟩ := Except.map_eq_ok_iff.mp h
    exact OperationShape.isStored_of_decode fits hs
  | struct =>
    obtain ⟨s, hs, rfl⟩ := Except.map_eq_ok_iff.mp h
    exact StructureShape.isStored_of_decode fits hs
  | other =>
    rw [decode.eq_def] at h
    dsimp only at h
    split at h
    · cases h
    · cases h
      trivial

/-- What is read from text is stored. -/
theorem isStored_of_read {text : List Char} (h : Shape.read (depth + 4) text = .ok (s, rest)) :
    s.IsStored depth := by
  rw [Shape.read.eq_def] at h
  split at h
  · cases h
  split at h
  · -- A list gives the type first, and then the values of the fields in order.
    obtain ⟨⟨more, s₁⟩, -, h⟩ := Except.bind_eq_ok_iff.mp h
    cases more with
    | false => cases h
    | true =>
      obtain ⟨⟨kind, s₂⟩, -, h⟩ := Except.bind_eq_ok_iff.mp h
      obtain ⟨⟨items, s₃⟩, elements, h⟩ := Except.bind_eq_ok_iff.mp h
      obtain ⟨shape, decoded, same⟩ := Except.bind_eq_ok_iff.mp h
      cases same
      have all : ∀ v ∈ items, Fits (depth + 3) v :=
        forall_of_collect (fun s v rest read => fits_readValue read) elements
      refine isStored_of_decode (fits_list.mpr fun v hv => ?_) decoded
      exact all v (List.mem_reverse.mp hv)
  split at h
  · -- An object may give the type anywhere; the other fields are kept as values.
    obtain ⟨⟨⟨kind, fields⟩, s₁⟩, entries, h⟩ := Except.bind_eq_ok_iff.mp h
    have all : ∀ e ∈ fields, Fits (depth + 3) e.2 := by
      refine foldFields_induction (fun p : Option ShapeKind × List (String × Json) =>
        ∀ e ∈ p.2, Fits (depth + 3) e.2) ?_ ?_ entries
      · intro acc key s out rest fits one
        rw [readShapeField] at one
        split at one
        · split at one
          · cases one
          · obtain ⟨_, -, one⟩ := Except.bind_eq_ok_iff.mp one
            obtain ⟨_, -, same⟩ := Except.bind_eq_ok_iff.mp one
            cases same
            exact fits
        · obtain ⟨s', -, one⟩ := Except.bind_eq_ok_iff.mp one
          obtain ⟨⟨v, s''⟩, read, same⟩ := Except.bind_eq_ok_iff.mp one
          cases same
          exact List.forall_mem_cons.mpr ⟨fits_readValue read, fits⟩
      · exact fun _ he => by cases he
    cases kind with
    | none => cases h
    | some kind =>
      obtain ⟨shape, decoded, same⟩ := Except.bind_eq_ok_iff.mp h
      cases same
      refine isStored_of_decode (fits_object.mpr fun e he => ?_) decoded
      exact all e (List.mem_reverse.mp he)
  · cases h

/-- Sets the kind of a shape, or keeps a field for later. -/
def keepField (kind : ShapeKind) (acc : Option ShapeKind × List (String × Json))
    (e : String × Json) : Except Fault (Option ShapeKind × List (String × Json)) :=
  if e.1 = "type" then
    if acc.1.isSome then .error (.duplicateField e.1) else .ok (some kind, acc.2)
  else .ok (acc.1, e :: acc.2)

theorem foldlM_keepField (kind : ShapeKind) {fields : List (String × Json)}
    (untyped : ∀ e ∈ fields, e.1 ≠ "type") (acc : Option ShapeKind × List (String × Json)) :
    fields.foldlM (keepField kind) acc = .ok (acc.1, fields.reverse ++ acc.2) := by
  induction fields generalizing acc with
  | nil => rfl
  | cons e fields ih =>
    obtain ⟨first, others⟩ := List.forall_mem_cons.mp untyped
    have kept : keepField kind acc e = .ok (acc.1, e :: acc.2) := if_neg first
    rw [List.foldlM_cons, kept]
    show fields.foldlM (keepField kind) (acc.1, e :: acc.2) = _
    rw [ih others, List.reverse_cons, List.append_assoc]
    rfl

theorem readKind_print (name : String) (rest : List Char) :
    readKind ((text name).print ++ rest) = .ok (.ofName name, rest) := by
  rw [print, printText_append]
  show (readText (name.toList.flatMap escape ++ '"' :: rest)).map _ = _
  rw [readText_printed]
  rfl

/-- A shape is read by its type, wherever that stands among the other fields. -/
theorem read_between {name : String} (before : List (String × Json))
    {after : List (String × Json)} (untyped : ∀ e ∈ before ++ after, e.1 ≠ "type")
    (faithful : ∀ e ∈ before ++ after, Faithful depth e.2)
    (decoded : decode (.ofName name) (.object (before ++ after)) = .ok s) :
    Shape.read (depth + 1) ((object (before ++ ("type", .text name) :: after)).print ++ rest)
      = .ok (s, rest) := by
  have typed : ∀ acc rest, Closes rest →
      readShapeField depth acc "type" (':' :: ((text name).print ++ rest))
        = (keepField (.ofName name) acc ("type", .text name)).map (·, rest) := by
    -- The type is no value of its own: it is read as a kind.
    intro acc rest _
    rw [readShapeField, keepField, if_pos rfl, if_pos rfl]
    split
    · rfl
    · rw [expectColon_cons]
      show (readKind ((text name).print ++ rest) >>= fun p => _) = _
      rw [readKind_print]
      rfl
  have steps : ∀ e ∈ before ++ ("type", text name) :: after, ∀ acc rest, Closes rest →
      readShapeField depth acc e.1 (':' :: (e.2.print ++ rest))
        = (keepField (.ofName name) acc e).map (·, rest) := by
    intro e he acc rest closed
    rcases List.mem_cons.mp (List.perm_middle.subset he) with rfl | he
    · exact typed acc rest closed
    · rw [readShapeField, keepField, if_neg (untyped e he), if_neg (untyped e he),
        expectColon_cons]
      show (readValue depth (e.2.print ++ rest) >>= fun p => _) = _
      rw [readValue_print (faithful e he) closed]
      rfl
  have all := foldFields_print steps (none, []) rest
  have kept : (before ++ ("type", text name) :: after).foldlM (keepField (.ofName name)) (none, [])
      = .ok (some (.ofName name), (before ++ after).reverse) := by
    obtain ⟨first, last⟩ := List.forall_mem_append.mp untyped
    rw [List.foldlM_append, foldlM_keepField _ first]
    show after.foldlM (keepField (.ofName name)) (some (.ofName name), before.reverse ++ []) = _
    rw [foldlM_keepField _ last, List.append_nil, List.reverse_append]
  rw [kept] at all
  rw [print_object, List.cons_append, List.append_assoc]
  show (foldFields (readShapeField depth) _ true (none, []) _ >>= fun p => _) = _
  refine (congrArg (· >>= _) all).trans ?_
  show (decode (.ofName name) (.object (before ++ after).reverse.reverse) >>= fun s =>
    .ok (s, rest)) = _
  rw [List.reverse_reverse, decoded]
  rfl

/-- A shape is read by its type whose other fields make up a record. -/
theorem read_writes {σ : Type} {l : Layout σ (FromValue σ)} (before : List (Entry σ))
    {after : List (Entry σ)} {r : σ} (name : String) (mk : σ → Shape)
    (decodes : ∀ v, decode (.ofName name) v = (l.decode v).map mk)
    (writes : l.Writes depth (before ++ after) r) {names : List String}
    (named : ((before ++ after).map (·.name)).Sublist names) (untyped : "type" ∉ names)
    (rest : List Char) :
    Shape.read (depth + 1) ((object (before.map (fun x => (x.name, x.value)) ++
        ("type", .text name) :: after.map fun x => (x.name, x.value))).print ++ rest)
      = .ok (mk r, rest) := by
  refine read_between _ (fun e he same => ?_) (fun e he => ?_) ?_
  · rw [← List.map_append] at he
    obtain ⟨x, hx, rfl⟩ := List.mem_map.mp he
    have mem : x.name ∈ names := named.subset (List.mem_map.mpr ⟨x, hx, rfl⟩)
    exact untyped (same ▸ mem)
  · rw [← List.map_append] at he
    obtain ⟨x, hx, rfl⟩ := List.mem_map.mp he
    exact (writes.fields x hx).2
  · have whole : l.decode (.object ((before ++ after).map fun x => (x.name, x.value))) = .ok r :=
      writes.decode
    rw [decodes, ← List.map_append, whole]
    rfl

theorem map_optional {σ α : Type} (name : String) (write : α → Json) (set : σ → Option α → σ)
    (a : Option α) :
    (Entry.optional name write set a).map (fun x => (x.name, x.value))
      = optionalField name write a := by
  cases a <;> rfl

theorem toJson_service (s : ServiceShape) :
    (service s).toJson
      = object (("type", .text "service") :: s.entries.map fun x => (x.name, x.value)) := by
  rw [ServiceShape.entries, List.map_append, map_optional]
  rfl

theorem toJson_resource (s : ResourceShape) :
    (resource s).toJson
      = object (("type", .text "resource") :: s.entries.map fun x => (x.name, x.value)) := by
  simp only [ResourceShape.entries, List.map_append, map_optional]
  rfl

theorem toJson_operation (s : OperationShape) :
    (operation s).toJson
      = object (("type", .text "operation") :: s.entries.map fun x => (x.name, x.value)) := by
  simp only [OperationShape.entries, List.map_append, map_optional]
  rfl

theorem toJson_struct (s : StructureShape) :
    (struct s).toJson
      = object (("type", .text "structure") :: s.entries.map fun x => (x.name, x.value)) :=
  rfl

/-- A shape that is stored is read as it was written. -/
theorem read_toJson (stored : s.IsStored depth) (free : s.FloatFree) :
    Shape.read (depth + 4) (s.toJson.print ++ rest) = .ok (s, rest) := by
  cases s with
  | service s =>
    rw [toJson_service]
    exact read_writes [] "service" .service (fun _ => rfl)
      (ServiceShape.writes_entries stored free) s.names_entries (by decide) rest
  | resource s =>
    rw [toJson_resource]
    exact read_writes [] "resource" .resource (fun _ => rfl)
      (ResourceShape.writes_entries stored free) s.names_entries (by decide) rest
  | operation s =>
    rw [toJson_operation]
    exact read_writes [] "operation" .operation (fun _ => rfl)
      (OperationShape.writes_entries stored free) s.names_entries (by decide) rest
  | struct s =>
    rw [toJson_struct]
    exact read_writes [] "structure" .struct (fun _ => rfl)
      (StructureShape.writes_entries stored free.1 free.2) s.names_entries (by decide) rest
  | other =>
    exact read_between [] (fun e he => absurd he List.not_mem_nil)
      (fun e he => absurd he List.not_mem_nil) rfl

end Shape

/-! ### Models -/

namespace Model

/-- The model is written and read again. -/
def IsStored (depth : Nat) (m : Model) : Prop :=
  ∀ e ∈ m.shapes.entries, e.1.IsValid ∧ e.2.IsStored depth

/-- No trait of the model has a floating-point number in its value. -/
def FloatFree (m : Model) : Prop := ∀ e ∈ m.shapes.entries, e.2.FloatFree

variable {depth : Nat} {m : Model} {rest : List Char}

theorem isStored_of_read {text : List Char} (h : layout.read (depth + 6) text = .ok (m, rest)) :
    m.IsStored depth := by
  refine read_induction (IsStored depth) (fun e he => absurd he List.not_mem_nil) ?_ h
  simp only [layout, List.forall_mem_cons]
  refine ⟨?_, ?_, by simp⟩
  · intro acc s out rest known read
    obtain ⟨p, -, same⟩ := Except.map_eq_ok_iff.mp read
    cases same
    exact known
  · intro acc s out rest _ read
    obtain ⟨⟨shapes, s'⟩, shapes_read, same⟩ := Except.map_eq_ok_iff.mp read
    cases same
    intro e he
    obtain ⟨⟨name, known⟩, t, t', shape⟩ := exists_of_readMap shapes_read e he
    exact ⟨ShapeId.isValid_of_idOfText known, Shape.isStored_of_read shape⟩

/-- The fields of a model, as they are written. -/
def entries (m : Model) : List (Entry Model) := [
  .of "smithy" (.text m.smithy) (fun m v => { m with smithy := v }) m.smithy,
  .of "shapes" (.object (m.shapes.entries.map fun e => (e.1.text, e.2.toJson)))
    (fun m v => { m with shapes := v }) m.shapes]

theorem read_toJson (stored : m.IsStored depth) (free : m.FloatFree) :
    layout.read (depth + 6) (m.toJson.print ++ rest) = .ok (m, rest) := by
  have shapes (rest : List Char) :
      readMap idOfText Shape.read (depth + 5)
          ((Json.object (m.shapes.entries.map fun e => (e.1.text, e.2.toJson))).print ++ rest)
        = .ok (m.shapes, rest) :=
    readMap_print ShapeId.text Shape.toJson (fun e he => (stored e he).1.idOfText)
      fun e he rest _ => Shape.read_toJson (stored e he).2 (free e he)
  have reads : ∀ x ∈ m.entries, layout.Reads (depth + 5) x := by
    simp only [entries, List.forall_mem_cons]
    refine ⟨reads_setRead rfl ?_, reads_setRead rfl ?_, by simp⟩
    · exact fun rest _ => readString_print ..
    · exact fun rest _ => shapes rest
  have record : layout.IsRecord m.entries := ⟨by simp [entries], by simp [layout]⟩
  exact read_print reads record rest

/-- Of the containers that the reader allows, six stand around the value of a member's trait. -/
theorem isStored_of_parse {document : String} (h : parse document = .ok m) : m.IsStored 121 := by
  have read := Except.mapError_eq_ok_iff.mp h
  obtain ⟨⟨m', rest⟩, read, final⟩ := Except.bind_eq_ok_iff.mp read
  obtain ⟨_, -, same⟩ := Except.bind_eq_ok_iff.mp final
  cases same
  have step : layout.read (121 + 6) document.toList = .ok (m, rest) := read
  exact isStored_of_read step

theorem parse_toJson (stored : m.IsStored 121) (free : m.FloatFree) :
    parse m.toJson.render = .ok m := by
  have read : layout.read depthLimit (m.toJson.print ++ []) = .ok (m, []) :=
    read_toJson stored free
  rw [parse, readDocument_render read]
  rfl

end Model

/-- Models and settings survive writing and reading: a model that was read from any document, and
whose traits hold no floating-point number, is read again from the document that it is written to,
and so are all settings. -/
theorem parse_render_toJson :
    (∀ document m, Model.parse document = .ok m → m.FloatFree →
      Model.parse m.toJson.render = .ok m) ∧
    ∀ s : Settings, Settings.parse s.toJson.render = .ok s :=
  ⟨fun _ _ h free => Model.parse_toJson (Model.isStored_of_parse h) free, Settings.parse_toJson⟩

/-- An operation with its input, and a shape of another type. -/
def relayModel : Model where
  shapes := SortedMap.ofList [
    (⟨"a", "Relay", none⟩, .operation {
      input := some ⟨"a", "Input", none⟩
      traits := SortedMap.ofList [(⟨"a", "retry", none⟩,
        .object [("codes", .list [.text "E", .null]), ("on", .flag true)])] }),
    (⟨"a", "Input", none⟩, .struct {
      members := SortedMap.ofList [("to", { target := ⟨"b", "Peer", some "name"⟩ })] }),
    (⟨"a", "Choice", none⟩, .other)]

/-- A document of the model, with fields in another order, and a list in place of an object. -/
def relayDocument : String := Text.ofLines [
  "\x7b\"shapes\":\x7b\"a#Relay\":\x7b\"input\":[\"a#Input\"],\"type\":\"operation\",",
  "\"traits\":\x7b\"a#retry\":\x7b\"on\":true,\"codes\":[\"E\",null]\x7d\x7d\x7d,",
  "\"a#Input\":[\"structure\",\x7b\"to\":\x7b\"target\":\"b#Peer$name\"\x7d\x7d],",
  "\"a#Choice\":\x7b\"type\":\"union\",\"members\":\x7b\x7d\x7d\x7d\x7d"]

theorem parse_render_toJson_relay :
    Model.parse relayDocument = .ok relayModel ∧ relayModel.FloatFree ∧
      Model.parse relayModel.toJson.render = .ok relayModel := by
  have read : Model.parse relayDocument = .ok relayModel :=
    Except.eq_ok_of_toOption (by decide +kernel)
  have free : relayModel.FloatFree := by
    intro e he
    have shapes : e ∈ [_, _, _] := he
    rw [List.mem_cons, List.mem_cons, List.mem_singleton] at shapes
    rcases shapes with rfl | rfl | rfl
    · trivial
    · refine ⟨fun m hm => ?_, fun e he => absurd he List.not_mem_nil⟩
      rw [List.mem_singleton.mp hm]
      exact fun e he => absurd he List.not_mem_nil
    · intro e he
      rw [List.mem_singleton.mp he]
      simp [Json.FloatFree, ItemsFloatFree, FieldsFloatFree]
  exact ⟨read, free, parse_render_toJson.1 relayDocument relayModel read free⟩

end Cratewright
