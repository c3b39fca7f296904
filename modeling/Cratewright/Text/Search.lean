/-
Finding a text inside another.

`Text.offset?` says how many bytes stand before the first occurrence; the check that several
texts occur one after the other is built on it. An occurrence ends before the next one is
looked for. The empty text occurs at every position.
-/
import Cratewright.Text.Lines

namespace Cratewright.Text

/-- The number of bytes before the first occurrence of `needle`. -/
def offset? (needle : List Char) : List Char → Option Nat
  | [] => if needle.isEmpty then some 0 else none
  | c :: rest =>
    if needle.isPrefixOf (c :: rest) then some 0
    else (offset? needle rest).map (c.utf8Size + ·)

/-- What follows the last occurrence. -/
def afterLast? (needle : List Char) : List Char → Option (List Char)
  | [] => if needle.isEmpty then some [] else none
  | c :: rest => (afterLast? needle rest).or (needle.isPrefixOf? (c :: rest))

/-- Whether `needle` occurs. -/
def occurs (needle text : List Char) : Bool := (offset? needle text).isSome

/-- The number of occurrences, where `skip` characters belong to one already counted. -/
def countFrom (needle : List Char) : Nat → List Char → Nat
  | _, [] => 0
  | skip + 1, _ :: rest => countFrom needle skip rest
  | 0, c :: rest =>
    if needle.isPrefixOf (c :: rest) then 1 + countFrom needle (needle.length - 1) rest
    else countFrom needle 0 rest

/-- The number of occurrences that do not overlap. The empty text occurs before every
character and at the end. -/
def occurrences (text needle : String) : Nat :=
  if needle.isEmpty then text.length + 1 else countFrom needle.toList 0 text.toList

/-- Replaces every occurrence of one character by another. -/
def replaceChar (old new : Char) (text : String) : String :=
  String.ofList (text.toList.map fun c => if c = old then new else c)

/-- Cuts a text at the first occurrence of a character, which is in neither part. -/
def cutAt? (sep : Char) : List Char → Option (List Char × List Char)
  | [] => none
  | c :: rest =>
    if c = sep then some ([], rest)
    else (cutAt? sep rest).map fun p => (c :: p.1, p.2)

/-- The pieces between the occurrences of a character. -/
def splitAt (sep : Char) : List Char → List (List Char)
  | [] => [[]]
  | c :: rest =>
    if c = sep then [] :: splitAt sep rest
    else
      match splitAt sep rest with
      | [] => [[c]]
      | p :: ps => (c :: p) :: ps

/-! ### Texts in order -/

/-- Why a list of texts does not occur in order. -/
inductive Disorder where
  /-- The position to look from is none at which a character starts or the text ends. -/
  | outside (cursor : Nat)
  /-- The text occurs, but only before the end of the one that should precede it. -/
  | early (needle : String)
  /-- The text does not occur at all. -/
  | missing (needle : String)
deriving DecidableEq

/-- The report for a person. -/
def Disorder.message (haystack : String) : Disorder → String
  | outside cursor => "cursor " ++ toString cursor ++ " is outside the text"
  | early needle => "`" ++ needle ++ "` appears before an earlier needle in:\n" ++ haystack
  | missing needle => "`" ++ needle ++ "` is missing from:\n" ++ haystack

/-- Looks for each text after the end of the one before it. The cursor is the position, in
bytes, from which the next one is looked for. -/
def inOrderFrom (haystack : List Char) : Nat → List String → Except Disorder Unit
  | _, [] => .ok ()
  | cursor, needle :: needles =>
    match dropBytes? cursor haystack with
    | none => .error (.outside cursor)
    | some rest =>
      match offset? needle.toList rest with
      | some offset => inOrderFrom haystack (cursor + (offset + needle.utf8ByteSize)) needles
      | none =>
        if occurs needle.toList haystack then .error (.early needle)
        else .error (.missing needle)

/-- Checks that the texts occur in `haystack`, each after the end of the one before it. -/
def inOrder (haystack : String) (needles : List String) : Except Disorder Unit :=
  inOrderFrom haystack.toList 0 needles

end Cratewright.Text
