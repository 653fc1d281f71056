import ModelApi.Key.Basic
import ModelApi.Resolver.Basic
import ModelApi.Schema.Lookup

/-!
# Directives and what they declare

The places where a document uses directives, and the declarations: models with the operations they offer, their primary
keys and secondary indexes, and fields that are backed by a statement.
-/

namespace ModelApi

/-! ## occurrences

The directives of a document in the order in which they are visited: type by type, those on the type itself before
those on its fields. Only object types have fields that count. -/

section Occurrences

open Schema

/-- A directive, the type definition it belongs to, and the field when it is on one. -/
structure Occurrence where
  directive : Directive
  owner : TypeDef
  field : Option FieldDef
  deriving Inhabited

/-- The directives of a type definition. -/
def Schema.TypeDef.occurrences (t : TypeDef) : List Occurrence :=
  t.directives.map (⟨·, t, none⟩) ++ t.kind.objectFields.flatMap fun f => f.directives.map (⟨·, t, some f⟩)

/-- The directives of a document. -/
def Schema.Document.occurrences (doc : Document) : List Occurrence := doc.types.flatMap (·.occurrences)

end Occurrences

/-! ## declarations -/

/-- The operations that a model offers. -/
inductive Operation where
  | get | list | sync | create | update | delete
  deriving DecidableEq, Repr, Inhabited

namespace Operation

/-- The operations in the order in which their resolvers are generated. -/
def all : List Operation := [.get, .list, .sync, .create, .update, .delete]

def name : Operation → String
  | .get => "get"
  | .list => "list"
  | .sync => "sync"
  | .create => "create"
  | .update => "update"
  | .delete => "delete"

def isQuery : Operation → Bool
  | .get | .list | .sync => true
  | .create | .update | .delete => false

def isMutation (o : Operation) : Bool := !o.isQuery

/-- Whether the operation answers with many items. -/
def isListing : Operation → Bool
  | .list | .sync => true
  | _ => false

/-- The root type whose field offers the operation. -/
def rootType (o : Operation) : String := if o.isQuery then Schema.queryType else Schema.mutationType

end Operation

/-- The fields that record when an item was written; a missing one is not kept. -/
structure Timestamps where
  createdAt : Option String := some "createdAt"
  updatedAt : Option String := some "updatedAt"
  deriving DecidableEq, Repr, Inhabited

/-- A model and the root fields of its operations; a missing one is not offered. -/
structure Model where
  name : String
  get : Option String
  list : Option String
  sync : Option String
  create : Option String
  update : Option String
  delete : Option String
  timestamps : Timestamps
  deriving DecidableEq, Repr, Inhabited

namespace Model

/-- The root field of an operation. -/
def field? (m : Model) : Operation → Option String
  | .get => m.get
  | .list => m.list
  | .sync => m.sync
  | .create => m.create
  | .update => m.update
  | .delete => m.delete

/-- The resolver of an operation. -/
def key? (m : Model) (o : Operation) : Option ResolverKey := (m.field? o).map (⟨o.rootType, ·⟩)

end Model

/-- The primary key of a model. -/
structure PrimaryKey where
  model : String
  key : Key
  deriving DecidableEq, Repr

/-- A secondary index of a model. -/
structure Index where
  /-- Empty only when it is given so; such an index cannot be provisioned. -/
  name : String
  model : String
  key : Key
  /-- The partition field of the model's primary key, when it has one that is declared. -/
  primaryPartition : Option KeyField
  /-- The root field that queries the index. -/
  queryField : Option String
  deriving DecidableEq, Repr

/-- A root field that is backed by a statement. -/
structure SqlField where
  typeName : String
  fieldName : String
  /-- The text itself, also where it is given by reference. -/
  statement : String
  reference : Option String
  deriving DecidableEq, Repr

def SqlField.key (f : SqlField) : ResolverKey := ⟨f.typeName, f.fieldName⟩

/-- The name of an index that is not given one: `byAAndB` for the fields `a` and `b`. -/
def defaultIndexName (field : String) (sort : List String) : String :=
  ((field :: sort).map Text.upperCamel).foldl
    (fun name part => (if 2 < name.utf8ByteSize then name ++ "And" else name) ++ part) "by"

end ModelApi
