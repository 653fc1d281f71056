/-!
# Joining and splitting texts

* `joinWith sep parts` puts `sep` between each two parts;
* `split sep s` cuts `s` at every `sep`, so `split '.' "a..b" = ["a", "", "b"]` and the empty text is one empty piece.
-/

namespace ModelApi.Text

/-- The parts in order, with `sep` between each two. -/
def joinWith (sep : String) : List String → String
  | [] => ""
  | [s] => s
  | s :: t :: rest => s ++ sep ++ joinWith sep (t :: rest)

/-- The pieces of a character list between the occurrences of `sep`; there is always at least one. -/
def splitChars (sep : Char) : List Char → List (List Char)
  | [] => [[]]
  | c :: cs =>
    if c = sep then [] :: splitChars sep cs
    else match splitChars sep cs with
      | [] => [[c]]
      | piece :: pieces => (c :: piece) :: pieces

/-- The pieces of `s` between the occurrences of `sep`. -/
def split (sep : Char) (s : String) : List String := (splitChars sep s.toList).map String.ofList

/-- The text before the first `c`, and the text after it when there is one. -/
def cutAt (c : Char) : List Char → List Char × Option (List Char)
  | [] => ([], none)
  | d :: ds => if d = c then ([], some ds) else let (before, after) := cutAt c ds; (d :: before, after)

end ModelApi.Text
