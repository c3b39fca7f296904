/-
Records in JSON.

A record is written as an object, or as the list of its fields in order. Its layout tells
the fields apart and says how each is read. `Layout.read` reads a record from text and
reports the first fault in the order of the text; `Layout.decode` reads it from a value.
-/
import Cratewright.Json.Reader

namespace Cratewright.Json

/-- A field of a record that is built up in `σ`; `ρ` is how it is read. -/
structure Field (σ ρ : Type) where
  name : String
  /-- Whether a record must have the field. -/
  required : Bool
  /-- Reads the field into the record so far. -/
  read : σ → ρ

/-- The fields of a record, in order. -/
structure Layout (σ ρ : Type) where
  name : String
  /-- The record before any field is read. -/
  start : σ
  fields : List (Field σ ρ)

/-- Reading from text, with the depth of containers that is left. -/
abbrev FromText (σ : Type) := Nat → List Char → Except Fault (σ × List Char)

/-- Reading from a value. -/
abbrev FromValue (σ : Type) := Json → Except Fault σ

namespace Layout

variable {σ ρ : Type}

/-- The record as a report names it. -/
def title (l : Layout σ ρ) : String := "struct " ++ l.name

/-- The record as a report names it when its list is too short. -/
def listTitle (l : Layout σ ρ) : String := l.title ++ " with " ++ elements l.fields.length

/-- The field of the given name. -/
def field? (l : Layout σ ρ) (name : String) : Option (Field σ ρ) :=
  l.fields.find? (·.name == name)

/-- Checks that every required field was seen. -/
def complete (l : Layout σ ρ) (seen : List String) (acc : σ) : Except Fault σ :=
  match l.fields.find? fun f => f.required && ! seen.contains f.name with
  | some f => .error (.missingField f.name)
  | none => .ok acc

/-- Checks that a list may end before the given fields, of which the first stands at
`index`. -/
def absent (l : Layout σ ρ) : Nat → List (Field σ ρ) → Except Fault Unit
  | _, [] => .ok ()
  | index, f :: rest =>
    if f.required then .error (.invalidLength index l.listTitle) else l.absent (index + 1) rest

/-! ### From text -/

/-- Reads one field of an object; a field of no known name is passed over. -/
def readField (l : Layout σ (FromText σ)) (depth : Nat) (acc : σ × List String) (key : String)
    (s : List Char) : Except Fault ((σ × List String) × List Char) :=
  match l.field? key with
  | none => do return (acc, ← skipValue (← expectColon s))
  | some f =>
    if acc.2.contains key then .error (.duplicateField key)
    else do
      let (a, s) ← f.read acc.1 depth (← expectColon s)
      return ((a, key :: acc.2), s)

/-- Passes over the end of a list whose fields have all been read. -/
def closeList (s : List Char) : Except Fault (List Char) :=
  match skipSpace s with
  | [] => .error .endInList
  | c :: rest =>
    if c = ']' then .ok rest
    else if c = ',' then
      match skipSpace rest with
      | [] => .error .trailingCharacters
      | d :: _ => if d = ']' then .error .trailingComma else .error .trailingCharacters
    else .error .trailingCharacters

/-- Reads the given fields in order from a list; the first of them stands at `index`. -/
def readPositions (l : Layout σ (FromText σ)) (depth : Nat) :
    Nat → List (Field σ (FromText σ)) → σ → List Char → Except Fault (σ × List Char)
  | _, [], acc, s => (closeList s).map (acc, ·)
  | index, f :: rest, acc, s => do
    match ← nextElement (index == 0) s with
    | (false, s) =>
      l.absent index (f :: rest)
      return (acc, s)
    | (true, s) =>
      let (acc, s) ← f.read acc depth s
      l.readPositions depth (index + 1) rest acc s

/-- Reads a record from text. -/
def read (l : Layout σ (FromText σ)) (depth : Nat) (s : List Char) :
    Except Fault (σ × List Char) :=
  match skipSpace s with
  | [] => .error .endInValue
  | c :: rest =>
    if c = '[' then
      match depth with
      | 0 => .error .tooDeep
      | depth + 1 => l.readPositions depth 0 l.fields l.start rest
    else if c = '\x7b' then
      match depth with
      | 0 => .error .tooDeep
      | depth + 1 => do
        let ((acc, seen), s) ←
          foldFields (l.readField depth) (rest.length + 1) true (l.start, []) rest
        return (← l.complete seen acc, s)
    else .error (wrongType l.title c rest)

/-! ### From a value -/

/-- Reads one field of an object; a field of no known name is ignored. -/
def decodeField (l : Layout σ (FromValue σ)) (acc : σ × List String) (entry : String × Json) :
    Except Fault (σ × List String) :=
  match l.field? entry.1 with
  | none => .ok acc
  | some f =>
    if acc.2.contains entry.1 then .error (.duplicateField entry.1)
    else (f.read acc.1 entry.2).map (·, entry.1 :: acc.2)

/-- Reads the given fields in order from a list of `length` values. -/
def decodePositions (l : Layout σ (FromValue σ)) (length : Nat) :
    Nat → List (Field σ (FromValue σ)) → σ → List Json → Except Fault σ
  | _, [], acc, [] => .ok acc
  | index, [], _, _ :: _ => .error (.invalidLength length (elements index ++ " in sequence"))
  | index, f :: rest, acc, [] => (l.absent index (f :: rest)).map fun _ => acc
  | index, f :: rest, acc, v :: items => do
    l.decodePositions length (index + 1) rest (← f.read acc v) items

/-- Reads a record from a value. -/
def decode (l : Layout σ (FromValue σ)) : Json → Except Fault σ
  | .object fields => do
    let (acc, seen) ← fields.foldlM l.decodeField (l.start, [])
    l.complete seen acc
  | .list items => l.decodePositions items.length 0 l.fields l.start items
  | v => .error (.invalidType (found v) l.title)

end Layout

/-! ### Parts of records, from text -/

/-- Reads a text. -/
def readString (s : List Char) : Except Fault (String × List Char) :=
  match skipSpace s with
  | [] => .error .endInValue
  | c :: rest => if c = '"' then readText rest else .error (wrongType "a string" c rest)

/-- Reads a truth value. -/
def readFlag (s : List Char) : Except Fault (Bool × List Char) :=
  match skipSpace s with
  | [] => .error .endInValue
  | c :: rest =>
    if c = 't' then (expectWord ['r', 'u', 'e'] rest).map (true, ·)
    else if c = 'f' then (expectWord ['a', 'l', 's', 'e'] rest).map (false, ·)
    else .error (wrongType "a boolean" c rest)

/-- Reads `null` as nothing, and any other value by `item`. -/
def readOption {α : Type} (item : List Char → Except Fault (α × List Char)) (s : List Char) :
    Except Fault (Option α × List Char) :=
  match skipSpace s with
  | 'n' :: rest => (expectWord ['u', 'l', 'l'] rest).map (none, ·)
  | _ => (item s).map fun p => (some p.1, p.2)

/-- Reads a list, each element by `item`. -/
def readList {α : Type} (item : Nat → List Char → Except Fault (α × List Char)) (depth : Nat)
    (s : List Char) : Except Fault (List α × List Char) :=
  match skipSpace s with
  | [] => .error .endInValue
  | c :: rest =>
    if c = '[' then
      match depth with
      | 0 => .error .tooDeep
      | depth + 1 => do
        let step (acc : List α) (s : List Char) : Except Fault (List α × List Char) :=
          (item depth s).map fun p => (p.1 :: acc, p.2)
        let (items, s) ← foldElements step (rest.length + 1) true [] rest
        return (items.reverse, s)
    else .error (wrongType "a sequence" c rest)

/-- Reads a map, each key by `key` and each value by `item`; of equal keys the last counts. -/
def readMap {κ α : Type} [Ord κ] [Std.TransOrd κ] (key : String → Except Fault κ)
    (item : Nat → List Char → Except Fault (α × List Char)) (depth : Nat) (s : List Char) :
    Except Fault (SortedMap κ α × List Char) :=
  match skipSpace s with
  | [] => .error .endInValue
  | c :: rest =>
    if c = '\x7b' then
      match depth with
      | 0 => .error .tooDeep
      | depth + 1 =>
        let entry (m : SortedMap κ α) (name : String) (s : List Char) :
            Except Fault (SortedMap κ α × List Char) := do
          let k ← key name
          let (v, s) ← item depth (← expectColon s)
          return (m.insert k v, s)
        foldFields entry (rest.length + 1) true SortedMap.empty rest
    else .error (wrongType "a map" c rest)

/-- Finds what a name stands for. -/
def variant? {α : Type} (known : List (String × α)) (name : String) : Except Fault α :=
  match known.find? (·.1 == name) with
  | some (_, a) => .ok a
  | none => .error (.unknownVariant name (known.map (·.1)))

/-- Reads one of several names: a text, or an object with the name as its only key and
`null` as its value. -/
def readVariant {α : Type} (known : List (String × α)) (depth : Nat) (s : List Char) :
    Except Fault (α × List Char) :=
  match skipSpace s with
  | [] => .error .endInValue
  | c :: rest =>
    if c = '"' then do
      let (name, s) ← readText rest
      return (← variant? known name, s)
    else if c = '\x7b' then
      match depth with
      | 0 => .error .tooDeep
      | _ + 1 =>
        match skipSpace rest with
        | [] => .error .endInObject
        | d :: tail =>
          if d = '"' then do
            let (name, s) ← readText tail
            let a ← variant? known name
            let s ← expectColon s
            match skipSpace s with
            | [] => .error .endInValue
            | n :: s =>
              if n = 'n' then do
                match skipSpace (← expectWord ['u', 'l', 'l'] s) with
                | [] => .error .endInObject
                | e :: s => if e = '\x7d' then return (a, s) else .error .expectedValue
              else .error (wrongType "unit" n s)
          else .error (if d = '\x7d' then .expectedValue else .keyNotText)
    else .error .expectedValue

/-! ### Parts of records, from a value -/

/-- The text that a value is. -/
def asText : Json → Except Fault String
  | .text s => .ok s
  | v => .error (.invalidType (found v) "a string")

/-- Nothing for `null`, and what `item` makes of any other value. -/
def asOption {α : Type} (item : Json → Except Fault α) : Json → Except Fault (Option α)
  | .null => .ok none
  | v => (item v).map some

/-- The items of a list. -/
def asList {α : Type} (item : Json → Except Fault α) : Json → Except Fault (List α)
  | .list items => items.mapM item
  | v => .error (.invalidType (found v) "a sequence")

/-- The entries of an object; of equal keys the last counts. -/
def asMap {κ α : Type} [Ord κ] [Std.TransOrd κ] (key : String → Except Fault κ)
    (item : Json → Except Fault α) : Json → Except Fault (SortedMap κ α)
  | .object fields =>
    fields.foldlM (fun m e => do return m.insert (← key e.1) (← item e.2)) SortedMap.empty
  | v => .error (.invalidType (found v) "a map")

/-- The identifier that a text is. -/
def idOfText (s : String) : Except Fault ShapeId := (ShapeId.parse s).mapError .malformedId

/-- The identifier that a value is. -/
def asId (v : Json) : Except Fault ShapeId := do idOfText (← asText v)

end Cratewright.Json
