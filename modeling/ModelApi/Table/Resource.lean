import ModelApi.Json.Basic
import ModelApi.Text.Join

/-!
# Raw table resources

A resource has properties and overrides: values under dotted paths that are laid over the properties in the order in
which the paths were first given. `effective` is the outcome.

A path segment is an index where it meets an array and is written in decimal, with an optional plus sign, within 64
bits. Everywhere else a segment names an object member; what is no object becomes one. A missing member starts as an
empty array when the next segment is an index.
-/

namespace ModelApi

/-- A table as it is handed to the provider. -/
structure RawTable where
  resourceType : String
  properties : OrderedMap String Json
  overrides : OrderedMap String Json

namespace RawTable

/-- The index that a path segment writes. -/
def index? (segment : String) : Option Nat :=
  let digits := match segment.toList with
    | '+' :: rest => rest
    | cs => cs
  if digits.isEmpty || !digits.all Char.isDigit then none
  else
    let n := Number.ofDigits digits
    if n < UInt64.size then some n else none

/-- Sets an item, with nulls in the places up to it that do not exist yet. -/
def setItem (items : List Json) (i : Nat) (f : Json → Json) : List Json :=
  (items ++ List.replicate (i + 1 - items.length) Json.null).modify i f

/-- The members of an object; any other value has none. -/
def membersOf : Json → List (String × Json)
  | .obj members => members
  | _ => []

/-- What a missing member starts as. -/
def seed : List String → Json
  | next :: _ => if (index? next).isSome then .arr [] else .null
  | [] => .null

/-- Puts a value under a path. -/
def override (value : Json) : List String → Json → Json
  | [], _ => value
  | segment :: rest, node =>
    match node, index? segment with
    | .arr items, some i => .arr (setItem items i (override value rest))
    | node, _ =>
      let members := membersOf node
      let child := (OrderedMap.find segment members).getD (seed rest)
      .obj (OrderedMap.put segment (override value rest child) members)

/-- Puts a value under a dotted path. -/
def overrideAt (path : String) (value root : Json) : Json := override value (Text.split '.' path) root

/-- The properties once every override is applied; none when something other than an object takes their place. -/
def effective (raw : RawTable) : OrderedMap String Json :=
  let root := raw.overrides.entries.foldl (fun root e => overrideAt e.1 e.2 root)
    (.obj [("Properties", .ofMap raw.properties)])
  .ofList (membersOf ((root.get? "Properties").getD .null))

def toJson (raw : RawTable) : Json :=
  .obj [("resourceType", .str raw.resourceType), ("properties", .ofMap raw.properties),
    ("overrides", .ofMap raw.overrides)]

end RawTable

end ModelApi
