/-
Names in other letter cases.

A name is cut into words at every character that is neither a letter nor a number, and
inside such a piece at the changes of case: after a lower-case letter that an upper-case
one follows, and before the last of several upper-case letters that a lower-case one
follows. The words are then joined in snake case, kebab case or upper camel case.
-/
import Cratewright.Text.Alphanumeric
import Cratewright.Text.LetterCase

namespace Cratewright.Text

/-- The case of the last letter that had one. -/
inductive CaseMode where
  | boundary
  | lower
  | upper
deriving DecidableEq

/-- The mode after a character; one without case keeps it. -/
def CaseMode.next (mode : CaseMode) (c : Char) : CaseMode :=
  if isLower c then .lower else if isUpper c then .upper else mode

/-- Cuts a piece at its changes of case. `word` is the word so far in reverse, and `mode`
belongs to it. -/
def camelWords (word : List Char) (mode : CaseMode) : List Char → List (List Char)
  | [] => []
  | [c] => [(c :: word).reverse]
  | c :: d :: rest =>
    let mode' := mode.next c
    if mode' = .lower && isUpper d then
      (c :: word).reverse :: camelWords [] .boundary (d :: rest)
    else if mode = .upper && isUpper c && isLower d then
      word.reverse :: camelWords [c] mode' (d :: rest)
    else camelWords (c :: word) mode' (d :: rest)

/-- The maximal runs of letters and numbers. -/
def alphanumericRuns : List Char → List (List Char)
  | [] => []
  | c :: rest =>
    if isAlphanumeric c then
      match rest with
      | [] => [[c]]
      | d :: _ =>
        if isAlphanumeric d then
          match alphanumericRuns rest with
          | [] => [[c]]
          | w :: ws => (c :: w) :: ws
        else [c] :: alphanumericRuns rest
    else alphanumericRuns rest

def nameWords (name : List Char) : List (List Char) :=
  (alphanumericRuns name).flatMap (camelWords [] .boundary)

/-- A word in lower case; a sigma at its end takes its final form. -/
def lowerWord : List Char → List Char
  | [] => []
  | [c] => if c = 'Σ' then ['ς'] else toLower c
  | c :: rest => toLower c ++ lowerWord rest

/-- A word with its first character in upper case and the rest in lower case. -/
def capitalWord : List Char → List Char
  | [] => []
  | c :: rest => toUpper c ++ lowerWord rest

/-- The words in lower case with `sep` between them. -/
def joinLower (sep : String) (name : String) : String :=
  sep.intercalate ((nameWords name.toList).map fun w => String.ofList (lowerWord w))

/-- The form `several_words`. -/
def snakeCase (name : String) : String := joinLower "_" name

/-- The form `several-words`. -/
def kebabCase (name : String) : String := joinLower "-" name

/-- The form `SeveralWords`. -/
def upperCamelCase (name : String) : String :=
  String.ofList ((nameWords name.toList).flatMap capitalWord)

end Cratewright.Text
