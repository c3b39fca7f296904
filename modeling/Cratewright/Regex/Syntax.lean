/-
Regular expressions as trees.

`Expr` is an expression as it is written, with its groups and changes of flags; a class in
brackets holds a `CharSet`. How often something may be repeated is left out, and so is which
place an anchor stands for. `Expr.depth` is how deeply an expression is nested, and
`Expr.names` lists the names of its groups.
-/
namespace Cratewright.Regex

/-- A character that stands for itself. -/
structure Literal where
  char : Char
  /-- Whether it is written as a byte, by two hexadecimal digits. -/
  isByte : Bool := false
deriving DecidableEq

/-- A class of characters that is written as one letter. -/
inductive Shorthand where
  | digit
  | blank
  | word
deriving DecidableEq

/-- An operation on two sets. -/
inductive SetOperation where
  | intersection
  | difference
  | symmetricDifference
deriving DecidableEq

/-- A set of characters, as it stands between brackets. -/
inductive CharSet where
  | literal (l : Literal)
  | range (first last : Literal)
  | named (negated : Bool) (name : String)
  | shorthand (negated : Bool) (kind : Shorthand)
  /-- Brackets inside the brackets. -/
  | nested (negated : Bool) (set : CharSet)
  | union (sets : List CharSet)
  | combined (op : SetOperation) (left right : CharSet)

/-- The flags that are switched on, and those that are switched off. -/
structure FlagChange where
  on : List Char := []
  off : List Char := []

/-- What a flag is switched to, if it is switched. -/
def FlagChange.setting? (change : FlagChange) (flag : Char) : Option Bool :=
  if change.on.contains flag then some true
  else if change.off.contains flag then some false
  else none

/-- A regular expression. -/
inductive Expr where
  | literal (l : Literal)
  /-- Any character. -/
  | dot
  /-- The start or the end of a line or of the text. -/
  | anchor
  /-- A place that is, or is not, at the start or the end of a word. -/
  | wordBoundary
  | shorthand (negated : Bool) (kind : Shorthand)
  | set (negated : Bool) (members : CharSet)
  /-- A change of the flags for the rest of the group. -/
  | flags (change : FlagChange)
  | repeated (e : Expr)
  | group (name : Option String) (change : FlagChange) (e : Expr)
  | sequence (es : List Expr)
  | choice (es : List Expr)

namespace CharSet

/-- The union of some sets; one set is its own union. -/
def ofList : List CharSet → CharSet
  | [set] => set
  | sets => .union sets

mutual

/-- How deeply the set is nested. -/
def depth : CharSet → Nat
  | .nested _ set => set.depth + 1
  | .union sets => depthAbove sets
  | .combined _ left right => max left.depth right.depth + 1
  | _ => 0

/-- How deeply something made of sets is nested. -/
def depthAbove : List CharSet → Nat
  | [] => 0
  | set :: rest => max (set.depth + 1) (depthAbove rest)

end

end CharSet

namespace Expr

/-- Expressions one after the other; one expression is its own sequence. -/
def ofList : List Expr → Expr
  | [e] => e
  | es => .sequence es

/-- The expression of some alternatives. -/
def ofChoices : List Expr → Expr
  | [e] => e
  | es => .choice es

mutual

/-- How deeply the expression is nested. -/
def depth : Expr → Nat
  | .set _ members => members.depth + 1
  | .repeated e => e.depth + 1
  | .group _ _ e => e.depth + 1
  | .sequence es => depthAbove es
  | .choice es => depthAbove es
  | _ => 0

/-- How deeply something made of expressions is nested. -/
def depthAbove : List Expr → Nat
  | [] => 0
  | e :: rest => max (e.depth + 1) (depthAbove rest)

end

mutual

/-- The names of the groups. -/
def names : Expr → List String
  | .repeated e => e.names
  | .group name _ e => name.toList ++ e.names
  | .sequence es => namesIn es
  | .choice es => namesIn es
  | _ => []

/-- The names of the groups in some expressions. -/
def namesIn : List Expr → List String
  | [] => []
  | e :: rest => e.names ++ namesIn rest

end

end Expr

end Cratewright.Regex
