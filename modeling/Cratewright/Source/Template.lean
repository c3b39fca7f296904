/-
Lines of a template.

In a line, a number sign before a name in braces is a hole of that name, and two number
signs stand for one. Any other number sign is text.
-/
import Cratewright.Text.Search

namespace Cratewright.Template

/-- A part of a template's line. -/
inductive Segment where
  | char (c : Char)
  | hole (name : String)
deriving DecidableEq

def Segment.isHole : Segment → Bool
  | char _ => false
  | hole _ => true

/-- The segments of a line that come after the next `skip` characters. -/
def parseFrom : Nat → List Char → List Segment
  | _, [] => []
  | skip + 1, _ :: rest => parseFrom skip rest
  | 0, c :: rest =>
    if c = '#' then
      match rest with
      | '#' :: _ => .char '#' :: parseFrom 1 rest
      | '\x7b' :: inside =>
        match Text.cutAt? '\x7d' inside with
        | some (name, _) => .hole (String.ofList name) :: parseFrom (name.length + 2) rest
        | none => .char '#' :: parseFrom 0 rest
      | _ => .char '#' :: parseFrom 0 rest
    else .char c :: parseFrom 0 rest

/-- The segments of a line. -/
def parse (line : List Char) : List Segment := parseFrom 0 line

end Cratewright.Template
