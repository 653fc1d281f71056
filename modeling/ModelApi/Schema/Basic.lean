import ModelApi.Json.Basic
import ModelApi.Text.Join
import ModelApi.Text.Reader

/-!
# Schema documents

The definitions of a GraphQL schema: types, type extensions, schema roots and directive declarations, with the
constant directives on them. Positions are kept where messages name them.
-/

namespace ModelApi.Schema

open Text (Pos)

/-- A type as a field refers to it. -/
inductive TypeRef where
  | named (name : String) (nullable : Bool)
  | list (item : TypeRef) (nullable : Bool)
  deriving DecidableEq, Repr, Inhabited

namespace TypeRef

def nullable : TypeRef → Bool
  | .named _ n => n
  | .list _ n => n

/-- The name inside all lists. -/
def baseName : TypeRef → String
  | .named name _ => name
  | .list item _ => item.baseName

def isList : TypeRef → Bool
  | .named _ _ => false
  | .list _ _ => true

/-- The type as it is written in a schema. -/
def text : TypeRef → String
  | .named name nullable => name ++ (if nullable then "" else "!")
  | .list item nullable => "[" ++ item.text ++ "]" ++ (if nullable then "" else "!")

/-- The type that characters write: one exclamation mark at the end is taken off; brackets around the rest make a list;
anything else is a name. -/
def ofCharsFuel : Nat → List Char → Option TypeRef
  | 0, _ => none
  | fuel + 1, cs =>
    let (nullable, cs) := if cs.getLast? = some '!' then (false, cs.dropLast) else (true, cs)
    match cs with
    | '[' :: rest => if rest.getLast? = some ']' then (ofCharsFuel fuel rest.dropLast).map (.list · nullable) else none
    | cs => some (.named (String.ofList cs) nullable)

/-- The type that a text writes, without regard to the grammar of names; none when a list is not closed. -/
def ofText? (s : String) : Option TypeRef := ofCharsFuel (s.toList.length + 1) s.toList

end TypeRef

/-- A value without variables. -/
inductive ConstValue where
  | null
  | bool (b : Bool)
  /-- No number stands for one that is beyond all doubles. -/
  | num (n : Option Number)
  | str (s : String)
  | enum (name : String)
  | list (items : List ConstValue)
  | object (fields : List (String × ConstValue))
  deriving Inhabited

namespace ConstValue

mutual
/-- The value as JSON: names of enum values are texts, and of fields with one name the last value counts, at the first
place. -/
def toJson : ConstValue → Json
  | .null => .null
  | .bool b => .bool b
  | .num (some n) => .num n
  | .num none => .null
  | .str s => .str s
  | .enum name => .str name
  | .list items => .arr (toJsonItems items)
  | .object fields => .ofMap (.ofList (toJsonFields fields))

def toJsonItems : List ConstValue → List Json
  | [] => []
  | v :: rest => toJson v :: toJsonItems rest

def toJsonFields : List (String × ConstValue) → List (String × Json)
  | [] => []
  | (name, v) :: rest => (name, toJson v) :: toJsonFields rest
end

mutual
/-- Whether all numbers in the value are doubles or whole numbers. -/
def representable : ConstValue → Bool
  | .num n => n.isSome
  | .list items => representableItems items
  | .object fields => representableFields fields
  | _ => true

def representableItems : List ConstValue → Bool
  | [] => true
  | v :: rest => representable v && representableItems rest

def representableFields : List (String × ConstValue) → Bool
  | [] => true
  | (_, v) :: rest => representable v && representableFields rest
end

end ConstValue

/-- A directive where it is applied. -/
structure Directive where
  name : String
  pos : Pos
  arguments : List (String × ConstValue)
  deriving Inhabited

/-- An argument of a field or directive, or a field of an input type. -/
structure InputValue where
  name : String
  type : TypeRef
  default : Option ConstValue
  directives : List Directive
  deriving Inhabited

/-- A field of an object or interface type. -/
structure FieldDef where
  name : String
  arguments : List InputValue
  type : TypeRef
  directives : List Directive
  deriving Inhabited

/-- A value of an enum type. -/
structure EnumValue where
  name : String
  directives : List Directive
  deriving Inhabited

/-- What a type definition defines. -/
inductive TypeKind where
  | scalar
  | object (fields : List FieldDef)
  | interface (fields : List FieldDef)
  | union (members : List String)
  | enum (values : List EnumValue)
  | input (fields : List InputValue)
  deriving Inhabited

namespace TypeKind

def isScalar : TypeKind → Bool
  | .scalar => true
  | _ => false

def isObject : TypeKind → Bool
  | .object _ => true
  | _ => false

def isEnum : TypeKind → Bool
  | .enum _ => true
  | _ => false

/-- The word for the kind. -/
def word : TypeKind → String
  | .scalar => "scalar"
  | .object _ => "object"
  | .interface _ => "interface"
  | .union _ => "union"
  | .enum _ => "enum"
  | .input _ => "input"

/-- The fields of an object type; other kinds have none. -/
def objectFields : TypeKind → List FieldDef
  | .object fields => fields
  | _ => []

end TypeKind

/-- A type definition, or a type extension. -/
structure TypeDef where
  pos : Pos
  name : String
  isExtension : Bool
  kind : TypeKind
  directives : List Directive
  deriving Inhabited

/-- Whether a directive of a name is applied to the definition itself. -/
def TypeDef.hasDirective (t : TypeDef) (name : String) : Bool := t.directives.any (·.name == name)

/-- Whether a directive of a name is applied to the field. -/
def FieldDef.hasDirective (f : FieldDef) (name : String) : Bool := f.directives.any (·.name == name)

/-- The kinds of operation roots. -/
inductive RootKind where
  | query | mutation | subscription
  deriving DecidableEq, Repr, Inhabited

def RootKind.word : RootKind → String
  | .query => "query"
  | .mutation => "mutation"
  | .subscription => "subscription"

/-- A definition of the roots, or an extension of it. -/
structure SchemaDef where
  pos : Pos
  isExtension : Bool
  directives : List Directive
  roots : List (RootKind × Pos)
  deriving Inhabited

/-- A definition of a document. -/
inductive Definition where
  | schema (d : SchemaDef)
  | type (d : TypeDef)
  | directive (arguments : List InputValue)
  deriving Inhabited

/-- The definitions in order. -/
structure Document where
  definitions : List Definition
  deriving Inhabited

/-- The type definitions and extensions, in order. -/
def Document.types (d : Document) : List TypeDef :=
  d.definitions.filterMap fun
    | .type t => some t
    | _ => none

end ModelApi.Schema
