import ModelApi.Schema.Lookup
import ModelApi.Text.Camel
import ModelApi.Text.Join

/-!
# Keys

A key has a partition field and any number of sort fields. Two or more sort fields are stored as one composite
attribute: names and values are joined by `#`, and the attribute goes by a camel case name in arguments.
-/

namespace ModelApi

open Text (joinWith)

/-- The type of a key attribute: a string or a number. -/
inductive AttributeType where
  | s | n
  deriving DecidableEq, Repr

def AttributeType.tag : AttributeType → String
  | .s => "S"
  | .n => "N"

/-- The part that an attribute plays in a key. -/
inductive KeyRole where
  | hash | range
  deriving DecidableEq, Repr

def KeyRole.tag : KeyRole → String
  | .hash => "HASH"
  | .range => "RANGE"

/-- An attribute of a key and the part it plays. -/
structure KeyElement where
  name : String
  role : KeyRole
  deriving DecidableEq, Repr

/-- The declared type of an attribute. -/
structure AttributeDef where
  name : String
  type : AttributeType
  deriving DecidableEq, Repr

/-- A field that takes part in a key. -/
structure KeyField where
  name : String
  type : Schema.TypeRef
  deriving DecidableEq, Repr

/-- A partition field and the sort fields in order. -/
structure Key where
  partition : KeyField
  sort : List KeyField
  deriving DecidableEq, Repr

/-- The attribute name of a composite: `a#b#c`. -/
def compositeName (fields : List String) : String := joinWith "#" fields

/-- The template text for one part of a composite value. -/
def compositePart (source field : String) : String := "$\x7b" ++ source ++ "." ++ field ++ "\x7d"

/-- The template text for the value of a composite whose parts are members of `source`. -/
def compositeValue (source : String) (fields : List String) : String := joinWith "#" (fields.map (compositePart source))

/-- The name of a composite in arguments: `aBC`. -/
def compositeArgument (fields : List String) : String := Text.lowerCamel (joinWith "_" fields)

/-- The scalars whose key attributes are numbers. -/
def numericScalars : List String := ["Int", "Float", "AWSTimestamp"]

/-- The type of the key attribute for a field type: enums and scalars that are not numbers are strings. -/
def attributeType (doc : Schema.Document) (type : Schema.TypeRef) : AttributeType :=
  if doc.isEnum type.baseName then .s else if numericScalars.contains type.baseName then .n else .s

namespace Key

/-- The names of the sort fields. -/
def sortNames (k : Key) : List String := k.sort.map (·.name)

/-- The names of all fields, the partition field first. -/
def names (k : Key) : List String := k.partition.name :: k.sortNames

/-- Whether the sort key is a composite. -/
def isComposite (k : Key) : Bool := 2 ≤ k.sort.length

/-- The sort attribute: the sole sort field, or the composite of all of them. -/
def sortAttribute? (k : Key) : Option String :=
  match k.sort with
  | [] => none
  | [single] => some single.name
  | _ => some (compositeName k.sortNames)

/-- The argument that conditions on the sort key are given in. -/
def sortArgument? (k : Key) : Option String :=
  match k.sort with
  | [] => none
  | [single] => some single.name
  | _ => some (compositeArgument k.sortNames)

/-- The key as a table states it. -/
def elements (k : Key) : List KeyElement :=
  ⟨k.partition.name, .hash⟩ :: (k.sortAttribute?.toList.map fun name => ⟨name, .range⟩)

/-- One definition for each attribute of the key. A composite is a single string. -/
def attributes (doc : Schema.Document) (k : Key) : List AttributeDef :=
  ⟨k.partition.name, attributeType doc k.partition.type⟩ ::
    match k.sort with
    | [] => []
    | [single] => [⟨single.name, attributeType doc single.type⟩]
    | _ => [⟨compositeName k.sortNames, .s⟩]

end Key

/-! ## encodings -/

def KeyElement.toJson (e : KeyElement) : Json := .obj [("attributeName", .str e.name), ("keyType", .str e.role.tag)]

def AttributeDef.toJson (a : AttributeDef) : Json :=
  .obj [("attributeName", .str a.name), ("attributeType", .str a.type.tag)]

end ModelApi
