import ModelApi.Json.Number
import ModelApi.OrderedMap

/-!
# JSON values

Objects keep their members in order. A value read from text has distinct member names in each object; values built
here are listed with distinct names as well.
-/

namespace ModelApi

/-- A JSON value. -/
inductive Json where
  | null
  | bool (b : Bool)
  | num (n : Number)
  | str (s : String)
  | arr (items : List Json)
  | obj (members : List (String × Json))
  deriving Inhabited

namespace Json

/-- A whole number. -/
def int (n : Int) : Json := .num (.int n)

/-- The text, or null. -/
def strOrNull : Option String → Json
  | some s => .str s
  | none => .null

/-- The list of texts. -/
def strs (l : List String) : Json := .arr (l.map .str)

/-- An object from an ordered map. -/
def ofMap (m : OrderedMap String Json) : Json := .obj m.entries

/-- An object with one member for each entry of an ordered map. -/
def ofMapWith {α : Type} (f : α → Json) (m : OrderedMap String α) : Json :=
  .obj (m.entries.map fun e => (e.1, f e.2))

/-- The member of an object. -/
def get? (name : String) : Json → Option Json
  | .obj members => OrderedMap.find name members
  | _ => none

end Json

end ModelApi
