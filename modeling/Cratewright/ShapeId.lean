/-
Absolute shape identifiers such as `example.weather#GetForecast$city`.

An identifier names a shape in a namespace, or a member of that shape. `ShapeId.parse`
accepts exactly the written forms, and says what is wrong with any other text.
Identifiers are ordered by namespace, then by name, then by member, a shape standing
before its members.
-/
import Cratewright.Text.Search

namespace Cratewright

/-- An absolute shape identifier. -/
structure ShapeId where
  /-- The namespace, such as `aws.protocols`. -/
  space : String
  /-- The shape's name in its namespace. -/
  name : String
  /-- The member's name, when the identifier is that of a member. -/
  member : Option String := none
deriving DecidableEq, Inhabited

namespace ShapeId

/-- What is wrong with a text that is no identifier. -/
inductive Defect where
  | separator
  | space
  | name
  | member
deriving DecidableEq

/-- The defect in words. -/
def Defect.reason : Defect → String
  | separator => "missing '#' separator"
  | space => "namespace must be dot-separated identifiers"
  | name => "shape name must be an identifier"
  | member => "member name must be an identifier"

/-- A text that is no identifier, with what is wrong with it. -/
structure Malformed where
  value : String
  defect : Defect
deriving DecidableEq

/-- The report for a person. -/
def Malformed.message (m : Malformed) : String :=
  "invalid shape id '" ++ m.value ++ "': " ++ m.defect.reason

/-- The written form. -/
def text (id : ShapeId) : String :=
  id.space ++ "#" ++ id.name ++
    match id.member with
    | none => ""
    | some m => "$" ++ m

/-- The shape that a member belongs to. -/
def withoutMember (id : ShapeId) : ShapeId := ⟨id.space, id.name, none⟩

/-- The member of a shape with the given name. -/
def withMember (id : ShapeId) (member : String) : ShapeId := ⟨id.space, id.name, some member⟩

/-! ### Reading -/

/-- Whether a character may stand in an identifier: an ASCII letter or digit, or an
underscore. -/
def isNameChar (c : Char) : Bool := c.isAlphanum || c == '_'

/-- Whether a text is one identifier. -/
def isName (s : List Char) : Bool := ! s.isEmpty && s.all isNameChar

/-- Reads a shape's name and, after a dollar sign, a member's. -/
def parseName (rest : List Char) : Except Defect (String × Option String) :=
  let (name, member) :=
    match Text.cutAt? '$' rest with
    | some (name, member) => (name, some member)
    | none => (rest, none)
  if ! isName name then .error .name
  else
    match member with
    | none => .ok (String.ofList name, none)
    | some m =>
      if isName m then .ok (String.ofList name, some (String.ofList m)) else .error .member

/-- Reads the parts of an identifier. -/
def parseParts (s : List Char) : Except Defect ShapeId :=
  match Text.cutAt? '#' s with
  | none => .error .separator
  | some (space, rest) =>
    if (Text.splitAt '.' space).all isName then
      (parseName rest).map fun (name, member) => ⟨String.ofList space, name, member⟩
    else .error .space

/-- Reads an identifier. -/
def parse (value : String) : Except Malformed ShapeId :=
  (parseParts value.toList).mapError fun defect => ⟨value, defect⟩

/-! ### Order -/

instance : Ord ShapeId :=
  ⟨compareLex (compareOn space) (compareLex (compareOn name) (compareOn member))⟩

instance : Std.TransOrd ShapeId :=
  inferInstanceAs (Std.TransCmp
    (compareLex (compareOn space) (compareLex (compareOn name) (compareOn member))))

instance : Std.LawfulEqOrd ShapeId where
  eq_of_compare {a b} h := by
    have h : compareLex (compareOn space) (compareLex (compareOn name) (compareOn member)) a b
        = .eq := h
    simp only [compareLex, compareOn, Ordering.then_eq_eq] at h
    obtain ⟨hs, hn, hm⟩ := h
    cases a
    cases b
    simp only [ShapeId.mk.injEq]
    exact ⟨Std.LawfulEqOrd.eq_of_compare hs, Std.LawfulEqOrd.eq_of_compare hn,
      Std.LawfulEqOrd.eq_of_compare hm⟩

end ShapeId

end Cratewright
