/-
TOML documents.

A document is a table whose entries stand in key order. The values of a table are written
before its sub-tables, each sub-table under a header with its full name; a table that only
has sub-tables needs no header. A text takes the plainest of the four quotations that can
hold it.
-/
import Cratewright.Text.Quoted
import Cratewright.SortedMap

namespace Cratewright

/-- A TOML value. -/
inductive Toml where
  | text (s : String)
  | flag (b : Bool)
  | list (items : List String)
  | table (entries : List (String × Toml))

namespace Toml

instance : Inhabited Toml := ⟨table []⟩

/-- The table of a map's entries. -/
def ofMap (m : SortedMap String Toml) : Toml := table m.entries

/-- The value of a key in a table. -/
def find? (key : String) : Toml → Option Toml
  | table entries => (entries.find? (·.1 == key)).map (·.2)
  | _ => none

/-- Whether a value is a table. -/
def isTable : Toml → Bool
  | table _ => true
  | _ => false

/-! ### Quotation -/

/-- Whether a character is a control character. -/
def isControl (c : Char) : Bool := c.toNat < 0x20 || c.toNat == 0x7f

/-- The length of the longest run of a character. `run` characters precede. -/
def longestRun (q : Char) (run : Nat) : List Char → Nat
  | [] => run
  | c :: rest => if c = q then longestRun q (run + 1) rest else max run (longestRun q 0 rest)

/-- A character inside double quotes. -/
def escape (c : Char) : List Char :=
  if c.toNat = 0x8 then ['\\', 'b']
  else if c = '\t' then ['\\', 't']
  else if c = '\n' then ['\\', 'n']
  else if c.toNat = 0xc then ['\\', 'f']
  else if c = '\r' then ['\\', 'r']
  else if c = '\\' then ['\\', '\\']
  else if c = '"' then ['\\', '"']
  else if isControl c then
    ['\\', 'u', '0', '0', (Text.hexDigit (c.toNat / 16)).toUpper,
      (Text.hexDigit (c.toNat % 16)).toUpper]
  else [c]

/-- A text inside three double quotes: line feeds stand as they are, and of three quotes in
a row the third is escaped. `run` unescaped quotes precede. -/
def escapeLong (run : Nat) : List Char → List Char
  | [] => []
  | c :: rest =>
    if c = '\n' then c :: escapeLong 0 rest
    else if c = '"' then
      if run = 2 then '\\' :: c :: escapeLong 0 rest else c :: escapeLong (run + 1) rest
    else escape c ++ escapeLong 0 rest

/-- The quotations of a text. -/
inductive Quotation where
  | basic
  | literal
  | longBasic
  | longLiteral
deriving DecidableEq

/-- The plainest quotation that can hold a text. -/
def quotation (s : List Char) : Quotation :=
  let control := s.any fun c => isControl c && c != '\t' && c != '\n'
  let lines := s.contains '\n'
  let slash := s.contains '\\'
  let single := longestRun '\'' 0 s
  let double := longestRun '"' 0 s
  if !control && !slash && double == 0 && !lines then .basic
  else if !control && single == 0 && !lines then .literal
  else if !control && !slash && double ≤ 2 then .longBasic
  else if !control && single ≤ 2 then .longLiteral
  else if lines then .longBasic
  else .basic

/-- A text in a quotation. A long one starts on a line of its own if it has several. -/
def quoteAs (q : Quotation) (s : List Char) : List Char :=
  let start := if s.contains '\n' then ['\n'] else []
  match q with
  | .basic => '"' :: (s.flatMap escape ++ ['"'])
  | .literal => '\'' :: (s ++ ['\''])
  | .longBasic => ['"', '"', '"'] ++ start ++ escapeLong 0 s ++ ['"', '"', '"']
  | .longLiteral => ['\'', '\'', '\''] ++ start ++ s ++ ['\'', '\'', '\'']

/-- The written form of a text. -/
def printText (s : String) : String := String.ofList (quoteAs (quotation s.toList) s.toList)

/-- Whether a key can stand without quotes. -/
def isBareKey (s : List Char) : Bool :=
  ! s.isEmpty && s.all fun c => c.isAlphanum || c == '-' || c == '_'

/-- The written form of a key. -/
def printKey (key : String) : String :=
  let s := key.toList
  let control := s.any fun c => isControl c && c != '\t'
  if isBareKey s then key
  else if !control && !s.contains '\\' && !s.contains '"' then
    String.ofList (quoteAs .basic s)
  else if !control && !s.contains '\'' then String.ofList (quoteAs .literal s)
  else String.ofList (quoteAs .basic s)

/-! ### Documents -/

/-- The written form of a value that is no table. -/
def printValue : Toml → String
  | text s => printText s
  | flag true => "true"
  | flag false => "false"
  | list items => "[" ++ ", ".intercalate (items.map printText) ++ "]"
  | table _ => ""

/-- The lines of a table's own values. -/
def printEntries (entries : List (String × Toml)) : String :=
  String.join ((entries.filter fun e => ! e.2.isTable).map fun e =>
    printKey e.1 ++ " = " ++ printValue e.2 ++ "\n")

/-- Whether a table is written under a header: it has values of its own or is empty. -/
def hasHeader (entries : List (String × Toml)) : Bool :=
  entries.isEmpty || entries.any fun e => ! e.2.isTable

/-- The header of a table. -/
def header (path : List String) : String := "[" ++ ".".intercalate (path.map printKey) ++ "]\n"

mutual

/-- The sections of a value that stands under `path`; only a table has any. -/
def sections (path : List String) : Toml → List String
  | table entries =>
    let own := if hasHeader entries then [header path ++ printEntries entries] else []
    own ++ entrySections path entries
  | _ => []

/-- The sections of the sub-tables of a table that stands under `path`. -/
def entrySections (path : List String) : List (String × Toml) → List String
  | [] => []
  | (key, v) :: rest => sections (path ++ [key]) v ++ entrySections path rest

end

/-- The text of a document, with a blank line before each header but the first. -/
def render (document : SortedMap String Toml) : String :=
  let own := printEntries document.entries
  let all := (if own.isEmpty then [] else [own]) ++ entrySections [] document.entries
  "\n".intercalate all

end Toml

end Cratewright
