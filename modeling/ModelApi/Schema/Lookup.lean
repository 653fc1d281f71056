import ModelApi.Schema.Basic

/-!
# Looking up types

A type may be defined once and extended many times. Its fields are those of all its object definitions in document
order; its kind is that of its first definition, or of its first extension when it is only extended.
-/

namespace ModelApi.Schema

/-- The names of the root types. -/
def queryType : String := "Query"
def mutationType : String := "Mutation"

/-- The directive that makes an object type a stored model. -/
def modelDirective : String := "model"

/-- The elements without repetition, each at its first place. -/
def distinct : List String → List String
  | [] => []
  | a :: l => a :: (distinct l).filter (· != a)

/-- The names of scalar types that need no definition. -/
def builtinScalars : List String := [
  "String", "ID", "Int", "Float", "Boolean", "AWSDate", "AWSTime", "AWSDateTime", "AWSTimestamp", "AWSEmail", "AWSURL",
  "AWSPhone", "AWSIPAddress", "BigInt", "Double"]

def isBuiltinScalar (name : String) : Bool := builtinScalars.contains name

/-- Whether a definition makes its type a model. -/
def TypeDef.isModelObject (t : TypeDef) : Bool := t.kind.isObject && t.hasDirective modelDirective

namespace Document

variable (doc : Document)

/-- The definition and the extensions of a type, in document order. -/
def definitionsOf (name : String) : List TypeDef := doc.types.filter (·.name == name)

/-- The names of all types, in the order in which they appear first. -/
def typeNames : List String := distinct (doc.types.map (·.name))

/-- The first definition of a type; its first extension when it is only extended. -/
def typeNamed? (name : String) : Option TypeDef :=
  match (doc.definitionsOf name).find? (!·.isExtension) with
  | some t => some t
  | none => (doc.definitionsOf name).head?

def isEnum (name : String) : Bool := (doc.typeNamed? name).any (·.kind.isEnum)

def isScalar (name : String) : Bool := (doc.typeNamed? name).any (·.kind.isScalar)

def isObject (name : String) : Bool := (doc.definitionsOf name).any (·.kind.isObject)

/-- The types that some definition makes an enum. -/
def enumNames : List String := doc.typeNames.filter fun n => (doc.definitionsOf n).any (·.kind.isEnum)

/-- The object types with a `@model` directive, in the order in which they appear first. -/
def modelNames : List String := doc.typeNames.filter fun n => (doc.definitionsOf n).any (·.isModelObject)

/-- The fields of an object type across its definition and extensions. -/
def objectFields (name : String) : List FieldDef := (doc.definitionsOf name).flatMap (·.kind.objectFields)

/-- The first field of a name. -/
def field? (type field : String) : Option FieldDef := (doc.objectFields type).find? (·.name == field)

/-- Whether a type is a list or a composite, as opposed to a scalar or an enum. Free-form JSON counts as composite. -/
def isComposite : TypeRef → Bool
  | .list _ _ => true
  | .named name _ => name == "AWSJSON" || !(isBuiltinScalar name || doc.isEnum name || doc.isScalar name)

/-- The fields that are lists or composites. -/
def compositeFields (type : String) : List String :=
  ((doc.objectFields type).filter fun f => doc.isComposite f.type).map (·.name)

/-- The fields that are lists. -/
def listFields (type : String) : List String := ((doc.objectFields type).filter (·.type.isList)).map (·.name)

end Document

end ModelApi.Schema
