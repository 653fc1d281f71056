import ModelApi.Text.Classes
import ModelApi.Text.LetterCase

/-!
# Camel case

A text is cut into words at everything that is neither letter nor digit, and inside such a piece where the case
changes: after a lower case stretch before an upper case letter, and before the last letter of an upper case stretch
when a lower case letter follows it. So `XMLHttp` has the words `XML` and `Http`, while `A1b` is one word.
-/

namespace ModelApi.Text

/-- The case of the stretch that was read last. -/
inductive Stretch where
  | boundary | lower | upper
  deriving DecidableEq, Repr

/-- The stretch after a character that ends no word. -/
def Stretch.after (s : Stretch) (c : Char) : Stretch :=
  if isLower c then .lower else if isUpper c then .upper else s

/-- The words of a piece. The characters of the unfinished word come last first. -/
def wordsFrom (s : Stretch) (word : List Char) : List Char → List (List Char)
  | [] => []
  | [c] => [(c :: word).reverse]
  | c :: next :: rest =>
    if s.after c = .lower ∧ isUpper next then (c :: word).reverse :: wordsFrom .boundary [] (next :: rest)
    else if s = .upper ∧ isUpper c ∧ isLower next then word.reverse :: wordsFrom .boundary [c] (next :: rest)
    else wordsFrom (s.after c) (c :: word) (next :: rest)

/-- The stretches of letters and digits, empty ones included. -/
def alphanumericPieces : List Char → List (List Char)
  | [] => [[]]
  | c :: cs =>
    if isAlphanumeric c then
      match alphanumericPieces cs with
      | [] => [[c]]
      | piece :: pieces => (c :: piece) :: pieces
    else [] :: alphanumericPieces cs

/-- The words of a text. -/
def words (s : String) : List (List Char) := (alphanumericPieces s.toList).flatMap (wordsFrom .boundary [])

/-- A word in lower case; a capital sigma at its end becomes the final form. -/
def lowercased : List Char → List Char
  | [] => []
  | [c] => if c = 'Σ' then ['ς'] else toLower c
  | c :: next :: rest => toLower c ++ lowercased (next :: rest)

/-- A word with its first character in upper case and the others in lower case. -/
def capitalized : List Char → List Char
  | [] => []
  | c :: rest => toUpper c ++ lowercased rest

/-- The words of a text, each capitalized, without anything between them. -/
def upperCamel (s : String) : String := String.ofList ((words s).flatMap capitalized)

/-- As `upperCamel`, with the first word in lower case. -/
def lowerCamel (s : String) : String :=
  match words s with
  | [] => ""
  | first :: rest => String.ofList (lowercased first ++ rest.flatMap capitalized)

end ModelApi.Text
