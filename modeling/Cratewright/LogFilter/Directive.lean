/-
Directives of log filters.

A directive sets the level up to which messages are let through, for all or only for those of
a target, of a span, or with a field. Directives are ordered by their scopes, of which the
more specific are the greater.
-/
import Cratewright.LogFilter.Value
import Cratewright.Text.Alphanumeric
import Cratewright.Text.Blank
import Cratewright.Text.Lines
import Cratewright.Text.Search

namespace Cratewright

/-- How much is let through. -/
inductive LogLevel where
  | off
  | error
  | warn
  | info
  | debug
  | trace
deriving DecidableEq

namespace LogLevel

def name : LogLevel → String
  | off => "off"
  | error => "error"
  | warn => "warn"
  | info => "info"
  | debug => "debug"
  | trace => "trace"

/-- The levels from nothing to everything. -/
def all : List LogLevel := [off, error, warn, info, debug, trace]

/-- Reads a level: its name in any case, or its position. Nothing means errors. -/
def parse? (s : List Char) : Option LogLevel :=
  match Decimal.natural? s with
  | some n => all[n]?
  | none =>
    if s.isEmpty then some error
    else all.find? fun l => l.name.toList == s.map Char.toLower

end LogLevel

/-- Which messages a directive is for. -/
structure LogScope where
  target : Option String := none
  span : Option String := none
  /-- A field, with the value that it has to have if one is asked for. -/
  field : Option (String × Option FieldValue) := none
deriving DecidableEq

namespace LogScope

/-- The number of bytes of the target's name. -/
def targetSize (s : LogScope) : Option Nat := s.target.map String.utf8ByteSize

/-- The value that the field has to have. -/
def fieldValue (s : LogScope) : Option FieldValue := s.field.bind (·.2)

def fieldName (s : LogScope) : Option String := s.field.map (·.1)

instance : Ord LogScope :=
  ⟨compareLex (compareOn targetSize) (compareLex (compareOn fun s => s.span.isSome)
    (compareLex (compareOn fun s => s.field.isSome) (compareLex (compareOn target)
      (compareLex (compareOn span) (compareLex (compareOn fun s => s.fieldValue.isSome)
        (compareLex (compareOn fieldName) (compareOn fieldValue)))))))⟩

instance : Std.TransOrd LogScope :=
  inferInstanceAs (Std.TransCmp
    (compareLex (compareOn targetSize) (compareLex (compareOn fun s => s.span.isSome)
      (compareLex (compareOn fun s => s.field.isSome) (compareLex (compareOn target)
        (compareLex (compareOn span) (compareLex (compareOn fun s => s.fieldValue.isSome)
          (compareLex (compareOn fieldName) (compareOn fieldValue)))))))))

/-- The scope in a directive's text; empty for all messages. -/
def text (s : LogScope) : String :=
  let field :=
    match s.field with
    | none => ""
    | some (name, none) => "\x7b" ++ name ++ "\x7d"
    | some (name, some value) => "\x7b" ++ name ++ "=" ++ value.text ++ "\x7d"
  let inside :=
    if s.span.isSome || s.field.isSome then "[" ++ s.span.getD "" ++ field ++ "]" else ""
  s.target.getD "" ++ inside

end LogScope

/-- The part of a filter for messages of some scope. -/
structure LogDirective where
  scope : LogScope
  level : LogLevel

namespace LogDirective

/-- The directive's text. -/
def text (d : LogDirective) : String :=
  if d.scope = {} then d.level.name else d.scope.text ++ "=" ++ d.level.name

/-! ### Reading -/

/-- Reads a field: a name, and a value behind an equals sign. -/
def field? (s : List Char) : Option (String × Option FieldValue) :=
  if s.isEmpty then none
  else
    match Text.cutAt? '=' s with
    | none => some (String.ofList s, none)
    | some (name, rest) =>
      let value :=
        match Text.cutAt? '=' rest with
        | some (value, _) => value
        | none => rest
      (FieldValue.parse? value).map fun v => (String.ofList name, some v)

/-- What a directive's text is at some position, and where that began. -/
inductive Phase where
  | start
  | levelOrTarget (first : Nat)
  | span (first : Nat)
  | field (first : Nat)
  | afterField
  | afterSpan
  | level (first : Nat)

/-- The part of a text between two positions. -/
def slice? (whole : List Char) (first last : Nat) : Option (List Char) :=
  (Text.dropBytes? first whole).bind (Text.takeBytes? (last - first))

/-- Whether a directive may start with a character. -/
def isStart (c : Char) : Bool := c == '-' || c == ':' || c == '_' || Text.isAlphanumeric c

/-- Goes on by one character, which stands at position `n`. -/
def advance (whole : List Char) (s : LogScope) (c : Char) (n : Nat) :
    Phase → Option (LogScope × Phase)
  | .start =>
    if c = '[' then some (s, .span (n + 1))
    else if isStart c then some (s, .levelOrTarget n)
    else none
  | .levelOrTarget first =>
    if c = '=' ∨ c = '[' then
      (slice? whole first n).map fun piece =>
        ({ s with target := some (String.ofList piece) },
          if c = '=' then .level (n + 1) else .span (n + 1))
    else some (s, .levelOrTarget first)
  | .span first =>
    if c = ']' then
      (slice? whole first n).map fun piece =>
        ({ s with span := some (String.ofList piece) }, .afterSpan)
    else if c = '\x7b' then
      (slice? whole first n).map fun piece =>
        let span := if piece.isEmpty then none else some (String.ofList piece)
        ({ s with span }, .field (n + 1))
    else some (s, .span first)
  | .field first =>
    if c = '\x7d' then
      ((slice? whole first n).bind field?).map fun f => ({ s with field := some f }, .afterField)
    else some (s, .field first)
  | .afterField => if c = ']' then some (s, .afterSpan) else none
  | .afterSpan => if c = '=' then some (s, .level (n + 1)) else none
  | .level first => some (s, .level first)

/-- Goes through characters, of which the first stands at position `n`. -/
def scan (whole : List Char) (s : LogScope) (phase : Phase) (n : Nat) :
    List Char → Option (LogScope × Phase)
  | [] => some (s, phase)
  | c :: rest => do
    let (s, phase) ← advance whole s c n phase
    scan whole s phase (n + c.utf8Size) rest

/-- The directive of a scope and the last phase. -/
def finish (whole : List Char) (s : LogScope) : Phase → Option LogDirective
  | .levelOrTarget first =>
    (Text.dropBytes? first whole).map fun word =>
      match LogLevel.parse? word with
      | some level => ⟨{ s with target := none }, level⟩
      | none => ⟨{ s with target := some (String.ofList word) }, .trace⟩
  | .level first =>
    (Text.dropBytes? first whole).bind fun word =>
      if word.isEmpty then some ⟨s, .trace⟩ else (LogLevel.parse? word).map (⟨s, ·⟩)
  | .afterSpan => some ⟨s, .trace⟩
  | _ => none

/-- Reads a directive. It is gone through without the blanks around it, but its parts are cut
out of the whole text, at the same positions in bytes. -/
def parse? (s : List Char) : Option LogDirective := do
  let (scope, phase) ← scan s {} .start 0 (Text.trim s)
  finish s scope phase

end LogDirective

end Cratewright
