/-
Reading JSON text.

A reading step takes the text from its position on and answers with what it read and the
text after it, or with the first fault it meets. Whole values are read by `readValue` up
to a given depth of nesting; `skipValue` passes over a value of any depth and asks less of
it: a text's surrogates need not be paired, and a number may be of any size.
-/
import Cratewright.Json.Numeral
import Cratewright.Text.Lines
import Cratewright.Text.Quoted

namespace Cratewright.Json

/-- The containers that may be nested in one another. -/
def depthLimit : Nat := 127

/-- Whether a character is JSON white space. -/
def isSpace (c : Char) : Bool := c == ' ' || c == '\t' || c == '\n' || c == '\r'

/-- The text from its first character that is no white space. -/
def skipSpace (s : List Char) : List Char := s.dropWhile isSpace

/-! ### Texts -/

/-- The value of four hexadecimal digits. -/
def hexQuad? (a b c d : Char) : Option Nat := Text.hexNumber? [a, b, c, d]

/-- The fault of an escape whose four digits are cut short: fewer than four bytes are left,
or some of them are no digits. -/
def cutQuad (s : List Char) : Fault :=
  if Text.byteLength s < 4 then .endInText else .invalidEscape

/-- The character that a one-letter escape stands for. -/
def simpleEscape? (c : Char) : Option Char :=
  if c = '"' then some '"'
  else if c = '\\' then some '\\'
  else if c = '/' then some '/'
  else if c = 'b' then some '\x08'
  else if c = 'f' then some '\x0c'
  else if c = 'n' then some '\n'
  else if c = 'r' then some '\r'
  else if c = 't' then some '\t'
  else none

/-- Whether a UTF-16 unit is the first of a surrogate pair. -/
def isHighSurrogate (n : Nat) : Bool := 0xd800 ≤ n && n ≤ 0xdbff

/-- Whether a UTF-16 unit is the second of a surrogate pair. -/
def isLowSurrogate (n : Nat) : Bool := 0xdc00 ≤ n && n ≤ 0xdfff

/-- The character of a surrogate pair. -/
def pairChar (high low : Nat) : Char :=
  Char.ofNat ((high - 0xd800) * 0x400 + (low - 0xdc00) + 0x10000)

/-- Puts a character before a text that was read. -/
def push (c : Char) (r : Except Fault (List Char × List Char)) :
    Except Fault (List Char × List Char) :=
  r.map fun p => (c :: p.1, p.2)

/-- Reads a text after its opening quote. -/
def readChars : List Char → Except Fault (List Char × List Char)
  | [] => .error .endInText
  | c :: s =>
    if c = '"' then .ok ([], s)
    else if c = '\\' then
      match s with
      | [] => .error .endInText
      | e :: s =>
        match simpleEscape? e with
        | some x => push x (readChars s)
        | none =>
          if e = 'u' then
            match s with
            | h0 :: h1 :: h2 :: h3 :: s =>
              match hexQuad? h0 h1 h2 h3 with
              | none => .error .invalidEscape
              | some n =>
                if isLowSurrogate n then .error .loneSurrogate
                else if isHighSurrogate n then
                  match s with
                  | [] => .error .endInText
                  | b :: s =>
                    if b = '\\' then
                      match s with
                      | [] => .error .endInText
                      | u :: s =>
                        if u = 'u' then
                          match s with
                          | l0 :: l1 :: l2 :: l3 :: s =>
                            match hexQuad? l0 l1 l2 l3 with
                            | none => .error .invalidEscape
                            | some low =>
                              if isLowSurrogate low then push (pairChar n low) (readChars s)
                              else .error .loneSurrogate
                          | s => .error (cutQuad s)
                        else .error .cutHexEscape
                    else .error .cutHexEscape
                else push (Char.ofNat n) (readChars s)
            | s => .error (cutQuad s)
          else .error .invalidEscape
    else if c.toNat < 0x20 then .error .controlCharacter
    else push c (readChars s)

/-- Reads a text after its opening quote. -/
def readText (s : List Char) : Except Fault (String × List Char) :=
  (readChars s).map fun p => (String.ofList p.1, p.2)

/-- Passes over a text after its opening quote. -/
def skipText : List Char → Except Fault (List Char)
  | [] => .error .endInText
  | c :: s =>
    if c = '"' then .ok s
    else if c = '\\' then
      match s with
      | [] => .error .endInText
      | e :: s =>
        if (simpleEscape? e).isSome then skipText s
        else if e = 'u' then
          match s with
          | h0 :: h1 :: h2 :: h3 :: s =>
            if (hexQuad? h0 h1 h2 h3).isSome then skipText s else .error .invalidEscape
          | s => .error (cutQuad s)
        else .error .invalidEscape
    else if c.toNat < 0x20 then .error .controlCharacter
    else skipText s

/-! ### Words and punctuation -/

/-- Passes over the given letters. -/
def expectWord : List Char → List Char → Except Fault (List Char)
  | [], s => .ok s
  | _ :: _, [] => .error .endInValue
  | w :: word, c :: s => if c = w then expectWord word s else .error .expectedIdent

/-- Passes over the colon after a key. -/
def expectColon (s : List Char) : Except Fault (List Char) :=
  match skipSpace s with
  | [] => .error .endInObject
  | c :: rest => if c = ':' then .ok rest else .error .expectedColon

/-- The position of the next element of a list, or the text after the list. -/
def nextElement (first : Bool) (s : List Char) : Except Fault (Bool × List Char) :=
  match skipSpace s with
  | [] => .error .endInList
  | c :: rest =>
    if c = ']' then .ok (false, rest)
    else if first then .ok (true, c :: rest)
    else if c = ',' then
      match skipSpace rest with
      | [] => .error .endInValue
      | d :: tail => if d = ']' then .error .trailingComma else .ok (true, d :: tail)
    else .error .expectedListCommaOrEnd

/-- The next key of an object with the text after it, or the text after the object. -/
def nextKey (first : Bool) (s : List Char) : Except Fault (Option String × List Char) :=
  match skipSpace s with
  | [] => .error .endInObject
  | c :: rest =>
    if c = '\x7d' then .ok (none, rest)
    else if first then
      if c = '"' then (readText rest).map fun p => (some p.1, p.2) else .error .keyNotText
    else if c = ',' then
      match skipSpace rest with
      | [] => .error .endInValue
      | d :: tail =>
        if d = '"' then (readText tail).map fun p => (some p.1, p.2)
        else if d = '\x7d' then .error .trailingComma
        else .error .keyNotText
    else .error .expectedObjectCommaOrEnd

/-- Reads the elements of a list after its bracket, each by `item`. At most `fuel` of them
are read; the length of the text is enough, since each takes a character. -/
def foldElements {σ : Type} (item : σ → List Char → Except Fault (σ × List Char)) :
    Nat → Bool → σ → List Char → Except Fault (σ × List Char)
  | 0, _, _, _ => .error .endInList
  | fuel + 1, first, acc, s => do
    match ← nextElement first s with
    | (false, s) => return (acc, s)
    | (true, s) =>
      let (acc, s) ← item acc s
      foldElements item fuel false acc s

/-- Reads the fields of an object after its brace. `entry` gets the key and the text from
its colon on. At most `fuel` fields are read; the length of the text is enough. -/
def foldFields {σ : Type} (entry : σ → String → List Char → Except Fault (σ × List Char)) :
    Nat → Bool → σ → List Char → Except Fault (σ × List Char)
  | 0, _, _, _ => .error .endInObject
  | fuel + 1, first, acc, s => do
    match ← nextKey first s with
    | (none, s) => return (acc, s)
    | (some key, s) =>
      let (acc, s) ← entry acc key s
      foldFields entry fuel false acc s

/-! ### Values -/

/-- Whether a character starts a number. -/
def startsNumber (c : Char) : Bool := c == '-' || c.isDigit

/-- Reads a value that is no container; `c` is its first character. -/
def readScalar (c : Char) (rest : List Char) : Except Fault (Json × List Char) :=
  if c = 'n' then (expectWord ['u', 'l', 'l'] rest).map (.null, ·)
  else if c = 't' then (expectWord ['r', 'u', 'e'] rest).map (.flag true, ·)
  else if c = 'f' then (expectWord ['a', 'l', 's', 'e'] rest).map (.flag false, ·)
  else if startsNumber c then (readNumber (c :: rest)).map fun p => (.number p.1, p.2)
  else if c = '"' then (readText rest).map fun p => (.text p.1, p.2)
  else .error .expectedValue

/-- Reads a value in which at most `depth` containers are nested. -/
def readValue : Nat → List Char → Except Fault (Json × List Char)
  | depth, s =>
    match skipSpace s with
    | [] => .error .endInValue
    | c :: rest =>
      if c = '[' then
        match depth with
        | 0 => .error .tooDeep
        | depth + 1 => do
          let item (items : List Json) (s : List Char) : Except Fault (List Json × List Char) :=
            (readValue depth s).map fun p => (p.1 :: items, p.2)
          let (items, s) ← foldElements item (rest.length + 1) true [] rest
          return (.list items.reverse, s)
      else if c = '\x7b' then
        match depth with
        | 0 => .error .tooDeep
        | depth + 1 => do
          let entry (fields : List (String × Json)) (key : String) (s : List Char) :
              Except Fault (List (String × Json) × List Char) := do
            let (v, s) ← readValue depth (← expectColon s)
            return ((key, v) :: fields, s)
          let (fields, s) ← foldFields entry (rest.length + 1) true [] rest
          return (.object fields.reverse, s)
      else readScalar c rest

/-- The fault of a value that is not of the expected type: that of its text if there is
one, else the type it has. `c` is its first character. -/
def wrongType (expected : String) (c : Char) (rest : List Char) : Fault :=
  if c = '[' then .invalidType .sequence expected
  else if c = '\x7b' then .invalidType .map expected
  else
    match readScalar c rest with
    | .ok (v, _) => .invalidType (found v) expected
    | .error fault => fault

/-! ### Passing over -/

/-- A container that is being passed over. -/
inductive Frame where
  | list
  | object
deriving DecidableEq

/-- Where the passing over stands. -/
inductive Place where
  /-- A value follows. -/
  | value
  /-- The innermost container has just been opened. -/
  | opened
  /-- A value has just ended. -/
  | ended

/-- The character that closes a container. -/
def Frame.closing : Frame → Char
  | list => ']'
  | object => '\x7d'

/-- The fault of a text that ends inside a container. -/
def Frame.cut : Frame → Fault
  | list => .endInList
  | object => .endInObject

/-- The fault of a container in which neither a comma nor its end follows a value. -/
def Frame.unseparated : Frame → Fault
  | list => .expectedListCommaOrEnd
  | object => .expectedObjectCommaOrEnd

/-- Passes over the key of an object's next field; a list has none. -/
def Frame.skipKey : Frame → List Char → Except Fault (List Char)
  | list, s => .ok s
  | object, s =>
    match skipSpace s with
    | [] => .error .endInObject
    | c :: rest => if c = '"' then do expectColon (← skipText rest) else .error .keyNotText

/-- Passes over a value that is no container; `c` is its first character. -/
def skipScalar (c : Char) (rest : List Char) : Except Fault (List Char) :=
  if c = 'n' then expectWord ['u', 'l', 'l'] rest
  else if c = 't' then expectWord ['r', 'u', 'e'] rest
  else if c = 'f' then expectWord ['a', 'l', 's', 'e'] rest
  else if startsNumber c then skipNumber (c :: rest)
  else if c = '"' then skipText rest
  else .error .expectedValue

/-- Passes over the rest of a value in at most `fuel` steps, given the containers that are
open. A step takes a character, or only moves on to the value that follows. -/
def skipFrom : Nat → Place → List Frame → List Char → Except Fault (List Char)
  | 0, _, _, _ => .error .endInValue
  | fuel + 1, .value, frames, s =>
    match skipSpace s with
    | [] => .error .endInValue
    | c :: rest =>
      if c = '[' then skipFrom fuel .opened (.list :: frames) rest
      else if c = '\x7b' then skipFrom fuel .opened (.object :: frames) rest
      else do skipFrom fuel .ended frames (← skipScalar c rest)
  | _ + 1, .ended, [], s => .ok s
  | fuel + 1, .ended, frame :: frames, s =>
    match skipSpace s with
    | [] => .error frame.cut
    | c :: rest =>
      if c = frame.closing then skipFrom fuel .ended frames rest
      else if c = ',' then do skipFrom fuel .value (frame :: frames) (← frame.skipKey rest)
      else .error frame.unseparated
  | _ + 1, .opened, [], s => .ok s
  | fuel + 1, .opened, frame :: frames, s =>
    match skipSpace s with
    | [] => .error frame.cut
    | c :: rest =>
      if c = frame.closing then skipFrom fuel .ended frames rest
      else do skipFrom fuel .value (frame :: frames) (← frame.skipKey (c :: rest))

/-- Passes over a value. -/
def skipValue (s : List Char) : Except Fault (List Char) :=
  skipFrom (2 * s.length + 2) .value [] s

/-! ### Documents -/

/-- Checks that only white space is left. -/
def expectEnd (s : List Char) : Except Fault Unit :=
  if (skipSpace s).isEmpty then .ok () else .error .trailingCharacters

/-- Reads a whole document by a reading step. -/
def readDocument {α : Type} (step : List Char → Except Fault (α × List Char))
    (document : String) : Except Fault α := do
  let (a, rest) ← step document.toList
  expectEnd rest
  return a

/-- Reads a document that is one value. -/
def parse (document : String) : Except Fault Json := readDocument (readValue depthLimit) document

end Cratewright.Json
