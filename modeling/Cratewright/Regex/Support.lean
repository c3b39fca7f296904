/-
Which regular expressions can be searched for.

A text is searched as UTF-8, and without tables of the properties of characters. So an
expression has to match whole characters; and it may ask for the kind or the case of a
character only while the flag `u` is off, when these are the ones of ASCII.
-/
import Cratewright.Regex.Reader

namespace Cratewright.Regex

/-- The flags that decide what is supported. -/
structure Mode where
  unicode : Bool := true
  ignoreCase : Bool := false

namespace Mode

/-- The mode after a change of flags. -/
def change (m : Mode) (c : FlagChange) : Mode where
  unicode := (c.setting? 'u').getD m.unicode
  ignoreCase := (c.setting? 'i').getD m.ignoreCase

/-- Whether a character may stand in an expression. -/
def allows (m : Mode) (l : Literal) : Bool :=
  if m.unicode then ! m.ignoreCase else ! l.isByte || l.char.toNat < 0x80

/-- Whether a character may stand in a class. -/
def allowsMember (m : Mode) (l : Literal) : Bool :=
  if m.unicode then ! m.ignoreCase else l.char.toNat < 0x80

/-- Whether a class may be negated. -/
def allowsNegation (m : Mode) (negated : Bool) : Bool := m.unicode || ! negated

/-- Whether a class that is written as a letter may be used. -/
def allowsShorthand (m : Mode) (negated : Bool) : Bool := ! m.unicode && ! negated

end Mode

mutual

def CharSet.isSupported (m : Mode) : CharSet → Bool
  | .literal l => m.allowsMember l
  | .range first last => m.allowsMember first && m.allowsMember last
  | .named negated _ => if m.unicode then ! m.ignoreCase else ! negated
  | .shorthand negated _ => m.allowsShorthand negated
  | .nested negated set => m.allowsNegation negated && set.isSupported m
  | .union sets => areSupported m sets
  | .combined _ left right => left.isSupported m && right.isSupported m

def CharSet.areSupported (m : Mode) : List CharSet → Bool
  | [] => true
  | set :: rest => set.isSupported m && areSupported m rest

end

mutual

/-- The mode after an expression, if that is supported. -/
def Expr.mode? (m : Mode) : Expr → Option Mode
  | .literal l => if m.allows l then some m else none
  | .dot => if m.unicode then some m else none
  | .anchor => some m
  | .wordBoundary => if m.unicode then none else some m
  | .shorthand negated _ => if m.allowsShorthand negated then some m else none
  | .set negated members =>
    if m.allowsNegation negated && members.isSupported m then some m else none
  | .flags c => some (m.change c)
  | .repeated e => e.mode? m
  | .group _ c e => (e.mode? (m.change c)).map fun _ => m
  | .sequence es => modeAfter? m es
  | .choice es => modeAfter? m es

/-- The mode after some expressions, if all are supported. -/
def Expr.modeAfter? (m : Mode) : List Expr → Option Mode
  | [] => some m
  | e :: rest =>
    match e.mode? m with
    | some m => modeAfter? m rest
    | none => none

end

/-- How deeply an expression may be nested. -/
def depthLimit : Nat := 250

/-- Whether an expression can be searched for. -/
def Expr.isSupported (e : Expr) : Bool :=
  e.depth ≤ depthLimit && decide e.names.Nodup && (e.mode? {}).isSome

/-- Whether a text is a regular expression that can be searched for. -/
def isPattern (s : List Char) : Bool := (Expr.parse? s).any Expr.isSupported

end Cratewright.Regex
