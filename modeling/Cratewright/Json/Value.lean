/-
JSON values.

A number is a whole number or a binary floating-point number, as its written form says.
The fields of an object stand in the order of the text they were read from, and a name
may stand there twice; `Json.canonical` sorts them and keeps the last of equal names.
-/
import Cratewright.Decimal.Shortest
import Cratewright.SortedMap

namespace Cratewright

inductive Json.Number where
  | integer (n : Int)
  | binary (x : Decimal.Binary64)
deriving DecidableEq

/-- A JSON value. -/
inductive Json where
  | null
  | flag (b : Bool)
  | number (n : Json.Number)
  | text (s : String)
  | list (items : List Json)
  | object (fields : List (String × Json))

namespace Json

instance : Inhabited Json := ⟨null⟩

/-- The object of a map's entries. -/
def ofMap (m : SortedMap String Json) : Json := object m.entries

mutual

/-- The value with the fields of every object in order, of equal names only the last. -/
def canonical : Json → Json
  | list items => list (canonicalItems items)
  | object fields => ofMap (canonicalFields fields SortedMap.empty)
  | null => null
  | flag b => flag b
  | number n => number n
  | text s => text s

/-- The canonical forms of the items. -/
def canonicalItems : List Json → List Json
  | [] => []
  | v :: rest => v.canonical :: canonicalItems rest

/-- Adds the canonical forms of the fields to a map. -/
def canonicalFields : List (String × Json) → SortedMap String Json → SortedMap String Json
  | [], m => m
  | (name, v) :: rest, m => canonicalFields rest (m.insert name v.canonical)

end

/-- The value of the last field of the given name. -/
def field? (name : String) : Json → Option Json
  | object fields => (fields.reverse.find? (·.1 == name)).map (·.2)
  | _ => none

/-- The truth value, if it is one. -/
def asFlag? : Json → Option Bool
  | flag b => some b
  | _ => none

/-! ### Equality -/

mutual

/-- Whether two values are the same. -/
def decEq : (v w : Json) → Decidable (v = w)
  | null, null => isTrue rfl
  | flag a, flag b => decidable_of_iff (a = b) (flag.injEq a b).symm.to_iff
  | number a, number b => decidable_of_iff (a = b) (number.injEq a b).symm.to_iff
  | text a, text b => decidable_of_iff (a = b) (text.injEq a b).symm.to_iff
  | list a, list b =>
    have := decEqItems a b
    decidable_of_iff (a = b) (list.injEq a b).symm.to_iff
  | object a, object b =>
    have := decEqFields a b
    decidable_of_iff (a = b) (object.injEq a b).symm.to_iff
  | null, flag _ | null, number _ | null, text _ | null, list _ | null, object _ => isFalse nofun
  | flag _, null | flag _, number _ | flag _, text _ | flag _, list _ | flag _, object _ =>
    isFalse nofun
  | number _, null | number _, flag _ | number _, text _ | number _, list _ | number _, object _ =>
    isFalse nofun
  | text _, null | text _, flag _ | text _, number _ | text _, list _ | text _, object _ =>
    isFalse nofun
  | list _, null | list _, flag _ | list _, number _ | list _, text _ | list _, object _ =>
    isFalse nofun
  | object _, null | object _, flag _ | object _, number _ | object _, text _ | object _, list _ =>
    isFalse nofun

/-- Whether two lists of items are the same. -/
def decEqItems : (vs ws : List Json) → Decidable (vs = ws)
  | [], [] => isTrue rfl
  | v :: vs, w :: ws =>
    have := decEq v w
    have := decEqItems vs ws
    decidable_of_iff (v = w ∧ vs = ws) (List.cons.injEq v vs w ws).symm.to_iff
  | [], _ :: _ | _ :: _, [] => isFalse nofun

/-- Whether two lists of fields are the same. -/
def decEqFields : (es fs : List (String × Json)) → Decidable (es = fs)
  | [], [] => isTrue rfl
  | (name, v) :: es, (other, w) :: fs =>
    have := decEq v w
    have := decEqFields es fs
    decidable_of_iff ((name = other ∧ v = w) ∧ es = fs) (by rw [List.cons.injEq, Prod.mk.injEq])
  | [], _ :: _ | _ :: _, [] => isFalse nofun

end

instance : DecidableEq Json := decEq

end Json

end Cratewright
