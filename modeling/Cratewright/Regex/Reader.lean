/-
Reading regular expressions.

A reading step takes the text from its position on and answers with what it read and the
text after it, or with nothing if the text is malformed. In an extended pattern, which is
one under the flag `x`, blanks and comments do not count.

No closing brace stands in the patterns that are read here, since they come from between
braces. So whatever needs one is malformed: a count of repetitions, a code point in braces,
a class of a Unicode property.
-/
import Cratewright.Regex.Syntax
import Cratewright.Text.Alphanumeric
import Cratewright.Text.Blank
import Cratewright.Text.Quoted
import Cratewright.Text.Search

namespace Cratewright.Regex

/-- Passes over blanks, and over comments from a hash to the end of the line. -/
def skipComments (inComment : Bool) : List Char → List Char
  | [] => []
  | c :: rest =>
    if inComment then skipComments (c != '\n') rest
    else if Text.isBlank c then skipComments false rest
    else if c = '#' then skipComments true rest
    else c :: rest

/-- Passes over what does not count. -/
def skip (extended : Bool) (s : List Char) : List Char :=
  if extended then skipComments false s else s

/-! ### Escapes -/

/-- Reads hexadecimal digits. -/
def readHex? (extended : Bool) : Nat → List Char → Option (List Char × List Char)
  | 0, s => some ([], s)
  | n + 1, s =>
    match skip extended s with
    | [] => none
    | c :: rest =>
      if (Text.hexValue? c).isSome then
        (readHex? extended n rest).map fun p => (c :: p.1, p.2)
      else none

/-- The number of hexadecimal digits after a letter that asks for some. -/
def hexCount? (c : Char) : Option Nat :=
  if c = 'x' then some 2 else if c = 'u' then some 4 else if c = 'U' then some 8 else none

/-- The class that a letter stands for in either case; a capital negates it. -/
def shorthand? (c : Char) : Option Expr :=
  let kind? : Option Shorthand :=
    if c.toLower = 'd' then some .digit
    else if c.toLower = 's' then some .blank
    else if c.toLower = 'w' then some .word
    else none
  kind?.map (.shorthand c.isUpper)

/-- The control character that a letter stands for. -/
def control? (c : Char) : Option Char :=
  if c = 'a' then some '\x07'
  else if c = 'f' then some '\x0c'
  else if c = 'n' then some '\n'
  else if c = 'r' then some '\r'
  else if c = 't' then some '\t'
  else if c = 'v' then some '\x0b'
  else none

/-- What a single character stands for after a backslash. -/
def escaped? (c : Char) : Option Expr :=
  match shorthand? c, control? c with
  | some e, _ => some e
  | none, some x => some (.literal ⟨x, false⟩)
  | none, none =>
    if c = 'A' ∨ c = 'z' then some .anchor
    else if c = 'b' ∨ c = 'B' ∨ c = '<' ∨ c = '>' then some .wordBoundary
    else if c.toNat < 0x80 ∧ ! c.isAlphanum then some (.literal ⟨c, false⟩)
    else none

/-- Reads an escape after its backslash. -/
def readEscape? (extended : Bool) : List Char → Option (Expr × List Char)
  | [] => none
  | c :: rest =>
    match hexCount? c with
    | none => (escaped? c).map (·, rest)
    | some n => do
      let (digits, rest) ← readHex? extended n rest
      let code ← Text.hexNumber? digits
      if code.isValidChar then some (.literal ⟨Char.ofNat code, c == 'x'⟩, rest) else none

/-! ### Classes -/

/-- The names of classes between brackets and colons. -/
def classNames : List String := [
  "alnum", "alpha", "ascii", "blank", "cntrl", "digit", "graph", "lower", "print", "punct",
  "space", "upper", "word", "xdigit"]

/-- Reads a named class after its opening bracket. -/
def readNamed? : List Char → Option (CharSet × List Char)
  | ':' :: s =>
    let (negated, s) :=
      match s with
      | '^' :: s => (true, s)
      | s => (false, s)
    let name := String.ofList (s.takeWhile (· ≠ ':'))
    match s.dropWhile (· ≠ ':') with
    | ':' :: ']' :: rest =>
      if classNames.contains name then some (.named negated name, rest) else none
    | _ => none
  | _ => none

/-- The next character that counts after a hyphen in a class. One hash is passed over, but
not the comment that it starts; if there is nothing else, the character right after the
hyphen is meant. -/
def peek? (extended : Bool) (s : List Char) : Option Char :=
  if extended then (afterBlanks? false s).or s.head? else s.head?
where
  /-- The first character besides blanks and the first hash. -/
  afterBlanks? (seen : Bool) : List Char → Option Char
    | [] => none
    | c :: rest =>
      if Text.isBlank c then afterBlanks? seen rest
      else if c = '#' ∧ ! seen then afterBlanks? true rest
      else some c

/-- The set of a single member. -/
def memberSet? : Expr → Option CharSet
  | .literal l => some (.literal l)
  | .shorthand negated kind => some (.shorthand negated kind)
  | _ => none

/-- Reads a character or an escape. -/
def readMember? (extended : Bool) : List Char → Option (Expr × List Char)
  | [] => none
  | c :: rest =>
    if c = '\\' then readEscape? extended rest else some (.literal ⟨c, false⟩, rest)

/-- Reads a member of a class, or the two ends of a range with a hyphen between. -/
def readRange? (extended : Bool) (s : List Char) : Option (CharSet × List Char) := do
  let (first, s) ← readMember? extended s
  match skip extended s with
  | [] => none
  | c :: rest =>
    let next := peek? extended rest
    if c ≠ '-' ∨ next = some ']' ∨ next = some '-' then (memberSet? first).map (·, c :: rest)
    else do
      let (last, rest) ← readMember? extended (skip extended rest)
      match first, last with
      | .literal a, .literal b => if a.char ≤ b.char then some (.range a b, rest) else none
      | _, _ => none

/-- The operation that a character stands for when it is written twice. -/
def operation? (c : Char) : Option SetOperation :=
  if c = '&' then some .intersection
  else if c = '-' then some .difference
  else if c = '~' then some .symmetricDifference
  else none

def readOperation? : List Char → Option (SetOperation × List Char)
  | c :: d :: rest => if c = d then (operation? c).map (·, rest) else none
  | _ => none

/-- The set of what stands before an operation, if there is one, and after it. -/
def combine (before : Option (SetOperation × CharSet)) (after : CharSet) : CharSet :=
  match before with
  | some (op, left) => .combined op left after
  | none => after

/-- Whether a class is negated, and what follows the sign of it. -/
def readNegation (extended : Bool) (s : List Char) : Bool × List Char :=
  match skip extended s with
  | '^' :: rest => (true, rest)
  | rest => (false, rest)

/-- Reads the members of a class up to its closing bracket, with those found so far in
reverse. At the start of a class hyphens stand for themselves, and so does a bracket that is
the very first. -/
def readMembers? (extended : Bool) : Nat → Bool → Option (SetOperation × CharSet) →
    List CharSet → List Char → Option (CharSet × List Char)
  | 0, _, _, _, _ => none
  | n + 1, atStart, before, found, s =>
    match skip extended s with
    | [] => none
    | c :: rest =>
      if atStart ∧ (c = '-' ∨ c = ']' ∧ found.isEmpty) then
        readMembers? extended n (c = '-') before (.literal ⟨c, false⟩ :: found) rest
      else if c = '[' then
        match readNamed? rest with
        | some (set, rest) => readMembers? extended n false before (set :: found) rest
        | none => do
          let (negated, rest) := readNegation extended rest
          let (set, rest) ← readMembers? extended n true none [] rest
          readMembers? extended n false before (.nested negated set :: found) rest
      else if c = ']' then some (combine before (.ofList found.reverse), rest)
      else
        match readOperation? (c :: rest) with
        | some (op, rest) =>
          let left := combine before (.ofList found.reverse)
          readMembers? extended n false (some (op, left)) [] rest
        | none => do
          let (set, rest) ← readRange? extended (c :: rest)
          readMembers? extended n false before (set :: found) rest

/-- Reads a class after its opening bracket. -/
def readClass? (extended : Bool) (s : List Char) : Option (Expr × List Char) := do
  let (negated, rest) := readNegation extended s
  let (set, rest) ← readMembers? extended (rest.length + 1) true none [] rest
  return (.set negated set, rest)

/-! ### Groups -/

/-- Whether a text can be the name of a group. -/
def isGroupName : List Char → Bool
  | [] => false
  | c :: rest =>
    (c == '_' || Text.isAlphabetic c) &&
      rest.all fun d => ['_', '.', '[', ']'].contains d || Text.isAlphanumeric d

def flagLetters : List Char := ['i', 'm', 's', 'U', 'u', 'R', 'x']

/-- The change that flags are written for. A hyphen precedes those that are switched off. -/
def flagChange? (s : List Char) : Option FlagChange :=
  let change? : Option FlagChange :=
    match Text.cutAt? '-' s with
    | none => some { on := s }
    | some (on, off) => if off.isEmpty then none else some { on, off }
  change?.filter fun change =>
    let letters := change.on ++ change.off
    letters.all flagLetters.contains && decide letters.Nodup

/-- What an opening parenthesis starts. -/
inductive Opening where
  | flags (change : FlagChange)
  | group (name : Option String) (change : FlagChange)

/-- Reads the name of a group after its opening angle. -/
def readName? (s : List Char) : Option (Opening × List Char) :=
  match Text.cutAt? '>' s with
  | some (name, rest) =>
    if isGroupName name then some (.group (some (String.ofList name)) {}, rest) else none
  | none => none

/-- Reads what follows an opening parenthesis. -/
def readOpening? (extended : Bool) (s : List Char) : Option (Opening × List Char) :=
  match skip extended s with
  | '?' :: 'P' :: '<' :: rest => readName? rest
  | '?' :: '<' :: rest => readName? rest
  | '?' :: rest => do
    let isFlag (c : Char) : Bool := c ≠ ':' && c ≠ ')'
    let change ← flagChange? (rest.takeWhile isFlag)
    match rest.dropWhile isFlag with
    | [] => none
    | c :: rest =>
      if c = ':' then some (.group none change, rest)
      else if change.on.isEmpty && change.off.isEmpty then none
      else some (.flags change, rest)
  | rest => some (.group none {}, rest)

/-! ### Expressions -/

/-- The expression of the alternatives read so far and the one that ends here, both in
reverse. -/
def close (choices : List Expr) (items : List Expr) : Expr :=
  .ofChoices (.ofList items.reverse :: choices).reverse

/-- The items when the last of them is repeated. A change of flags cannot be. -/
def repeatLast? : List Expr → Option (List Expr)
  | [] => none
  | .flags _ :: _ => none
  | e :: items => some (.repeated e :: items)

/-- Passes over the sign that a repetition is to be as short as possible. -/
def skipLazy : List Char → List Char
  | '?' :: rest => rest
  | s => s

/-- Reads an item that starts with a character and is neither a group nor a repetition. -/
def readItem? (extended : Bool) (c : Char) (rest : List Char) : Option (Expr × List Char) :=
  if c = '[' then readClass? extended rest
  else if c = '\\' then readEscape? extended rest
  else if c = '\x7b' then none
  else if c = '.' then some (.dot, rest)
  else if c = '^' ∨ c = '$' then some (.anchor, rest)
  else some (.literal ⟨c, false⟩, rest)

/-- Reads up to a closing parenthesis or the end, with the alternatives and the items found
so far in reverse. A change of flags holds to the end of the group that it stands in. -/
def readChoices? : Nat → Bool → List Expr → List Expr → List Char → Option (Expr × List Char)
  | 0, _, _, _, _ => none
  | n + 1, extended, choices, items, s =>
    match skip extended s with
    | [] => some (close choices items, [])
    | c :: rest =>
      if c = ')' then some (close choices items, c :: rest)
      else if c = '|' then
        readChoices? n extended (.ofList items.reverse :: choices) [] rest
      else if c = '?' ∨ c = '*' ∨ c = '+' then do
        readChoices? n extended choices (← repeatLast? items) (skipLazy rest)
      else if c = '(' then do
        let (opening, rest) ← readOpening? extended rest
        match opening with
        | .flags change =>
          let extended := (change.setting? 'x').getD extended
          readChoices? n extended choices (.flags change :: items) rest
        | .group name change =>
          let inside := (change.setting? 'x').getD extended
          match ← readChoices? n inside [] [] rest with
          | (e, _ :: rest) => readChoices? n extended choices (.group name change e :: items) rest
          | (_, []) => none
      else do
        let (e, rest) ← readItem? extended c rest
        readChoices? n extended choices (e :: items) rest

/-- Reads an expression. -/
def Expr.parse? (s : List Char) : Option Expr :=
  match readChoices? (s.length + 1) false [] [] s with
  | some (e, []) => some e
  | _ => none

end Cratewright.Regex
