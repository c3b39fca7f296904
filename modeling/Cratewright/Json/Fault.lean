/-
What can be wrong with a JSON document.

A fault is either in the text itself or in what the text says: a value of another type
than the one expected, a field that is missing or stands twice, a name that is not known.
-/
import Cratewright.Json.Value
import Cratewright.ShapeId
import Cratewright.Text.Quoted

namespace Cratewright.Json

/-- A value of a type that was not expected, as far as a report tells it. -/
inductive Found where
  | null
  | flag (b : Bool)
  | number (n : Number)
  | text (s : String)
  | sequence
  | map

/-- The value in words. -/
def Found.words : Found → String
  | null => "null"
  | flag true => "boolean `true`"
  | flag false => "boolean `false`"
  | number (.integer n) => "integer `" ++ toString n ++ "`"
  | number (.binary x) => "floating point `" ++ x.text ++ "`"
  | text s => "string " ++ Text.quoted s
  | sequence => "sequence"
  | map => "map"

/-- What a report tells of a value. -/
def found : Json → Found
  | .null => .null
  | .flag b => .flag b
  | .number n => .number n
  | .text s => .text s
  | .list _ => .sequence
  | .object _ => .map

/-- What is wrong with a document. -/
inductive Fault where
  | endInValue
  | endInText
  | endInList
  | endInObject
  | expectedColon
  | expectedListCommaOrEnd
  | expectedObjectCommaOrEnd
  | expectedIdent
  | expectedValue
  | invalidEscape
  | invalidNumber
  | numberOutOfRange
  | loneSurrogate
  | cutHexEscape
  | controlCharacter
  | keyNotText
  | trailingComma
  | trailingCharacters
  | tooDeep
  | invalidType (found : Found) (expected : String)
  | invalidLength (length : Nat) (expected : String)
  | missingField (name : String)
  | duplicateField (name : String)
  | unknownVariant (name : String) (known : List String)
  | malformedId (m : ShapeId.Malformed)

/-- Names as a report lists what it expects. -/
def alternatives (known : List String) : String :=
  " or ".intercalate (known.map fun k => "`" ++ k ++ "`")

/-- The fault in words. -/
def Fault.message : Fault → String
  | endInValue => "EOF while parsing a value"
  | endInText => "EOF while parsing a string"
  | endInList => "EOF while parsing a list"
  | endInObject => "EOF while parsing an object"
  | expectedColon => "expected `:`"
  | expectedListCommaOrEnd => "expected `,` or `]`"
  | expectedObjectCommaOrEnd => "expected `,` or `\x7d`"
  | expectedIdent => "expected ident"
  | expectedValue => "expected value"
  | invalidEscape => "invalid escape"
  | invalidNumber => "invalid number"
  | numberOutOfRange => "number out of range"
  | loneSurrogate => "lone leading surrogate in hex escape"
  | cutHexEscape => "unexpected end of hex escape"
  | controlCharacter => "control character (\\u0000-\\u001F) found while parsing a string"
  | keyNotText => "key must be a string"
  | trailingComma => "trailing comma"
  | trailingCharacters => "trailing characters"
  | tooDeep => "recursion limit exceeded"
  | invalidType found expected => "invalid type: " ++ found.words ++ ", expected " ++ expected
  | invalidLength n expected => "invalid length " ++ toString n ++ ", expected " ++ expected
  | missingField name => "missing field `" ++ name ++ "`"
  | duplicateField name => "duplicate field `" ++ name ++ "`"
  | unknownVariant name known =>
    "unknown variant `" ++ name ++ "`, expected " ++ alternatives known
  | malformedId m => m.message

/-- A number of elements in words. -/
def elements (n : Nat) : String :=
  if n = 1 then "1 element" else toString n ++ " elements"

end Cratewright.Json
