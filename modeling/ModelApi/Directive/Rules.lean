import ModelApi.Config.Basic
import ModelApi.Directive.Arguments
import ModelApi.Directive.Basic
import ModelApi.Directive.Misuse
import ModelApi.Renames
import ModelApi.Text.Classes
import ModelApi.Text.Plural

/-!
# The rules of directives

A rule handles some directives: it adds what an occurrence declares to the declarations so far, or says what is wrong
with it. There are five rules, for models, primary keys, indexes, statements and renames.
-/

namespace ModelApi

open Schema (Document FieldDef TypeDef)

/-- What the directives of a document declare. -/
structure Declarations where
  models : OrderedMap String Model := .empty
  primaryKeys : List PrimaryKey := []
  indexes : List Index := []
  sqlFields : List SqlField := []
  renames : Renames := {}

instance : Inhabited Declarations := ⟨{}⟩

/-- The directives that a rule handles, and what an occurrence of one of them adds. -/
structure Rule where
  directives : List String
  declare : Occurrence → Declarations → Except Misuse Declarations

/-- Whether a type definition itself carries `@model`. -/
def isModelDef (t : TypeDef) : Bool := t.hasDirective Schema.modelDirective

/-- The decoded arguments of a directive. -/
def readArguments {σ α : Type} (shape : Decode.Shape σ α) (d : Schema.Directive) : Except Misuse α :=
  (d.decode shape).mapError (.arguments d.name ·)

/-! ## models -/

/-- The model that arguments describe. Queries, mutations and timestamps have names of their own when no argument is
given, and are left out when it is null. -/
def Model.ofArguments (name : String) (a : ModelArguments) : Model :=
  let queries : QueryNames := match a.queries with
    | none => ⟨some ("get" ++ name), some ("list" ++ Text.plural name), some ("sync" ++ Text.plural name)⟩
    | some given => given.getD {}
  let mutations : MutationNames := match a.mutations with
    | none => ⟨some ("create" ++ name), some ("update" ++ name), some ("delete" ++ name)⟩
    | some given => given.getD {}
  { name
    get := queries.get
    list := queries.list
    sync := queries.sync
    create := mutations.create
    update := mutations.update
    delete := mutations.delete
    timestamps := match a.timestamps with
      | none => {}
      | some given => given.getD ⟨none, none⟩ }

/-- `@model` declares a model, once for each object type. -/
def modelRule : Rule where
  directives := [Schema.modelDirective]
  declare o d := do
    if o.field.isSome || !o.owner.kind.isObject then .error .modelNotOnObject
    if d.models.contains o.owner.name then .error (.modelTwice o.owner.name)
    let arguments ← readArguments Decode.modelArguments o.directive
    .ok { d with models := d.models.insert o.owner.name (.ofArguments o.owner.name arguments) }

/-! ## keys -/

def primaryKeyDirective : String := "primaryKey"
def indexDirective : String := "index"

def Schema.FieldDef.toKeyField (f : FieldDef) : KeyField := ⟨f.name, f.type⟩

/-- The field that a key directive stands on; its type has to be a model. -/
def keyFieldOf (directive : String) (o : Occurrence) : Except Misuse FieldDef :=
  match o.field with
  | none => .error (.keyNotOnField directive)
  | some f => if isModelDef o.owner then .ok f else .error (.keyNotOnModel directive)

/-- The sort field of a name. -/
def sortField (doc : Document) (type : String) (key : KeyKind) (name : String) : Except Misuse KeyField :=
  match doc.field? type name with
  | some f => .ok ⟨name, f.type⟩
  | none => .error (.unknownKeyField name type key)

/-- The key with a partition field and named sort fields; all of them have to be scalars or enums. -/
def resolveKey (doc : Document) (type : String) (partition : FieldDef) (sort : List String) (key : KeyKind) :
    Except Misuse Key := do
  let sort ← sort.mapM (sortField doc type key)
  match (partition.toKeyField :: sort).find? fun f => doc.isComposite f.type with
  | some f => .error (.compositeKeyField f.name type)
  | none => .ok ⟨partition.toKeyField, sort⟩

/-- `@primaryKey` declares the key of a model, once, of fields that are never null. -/
def primaryKeyRule (doc : Document) : Rule where
  directives := [primaryKeyDirective]
  declare o d := do
    let type := o.owner.name
    let field ← keyFieldOf primaryKeyDirective o
    if d.primaryKeys.any (·.model == type) then .error (.secondPrimaryKey type)
    let sort ← readArguments Decode.primaryKeyArguments o.directive
    let key ← resolveKey doc type field sort .primary
    if (key.partition :: key.sort).any (·.type.nullable) then .error (.nullablePrimaryKey type)
    .ok { d with primaryKeys := d.primaryKeys ++ [⟨type, key⟩] }

/-- The partition field of the primary key that a model declares. -/
def primaryPartition? (doc : Document) (type : String) : Option KeyField :=
  ((doc.objectFields type).find? (·.hasDirective primaryKeyDirective)).map (·.toKeyField)

/-- `@index` declares a secondary index. Names are distinct within a model; empty ones are not compared. -/
def indexRule (doc : Document) : Rule where
  directives := [indexDirective]
  declare o d := do
    let type := o.owner.name
    let field ← keyFieldOf indexDirective o
    let arguments ← readArguments Decode.indexArguments o.directive
    let name := arguments.name.getD (defaultIndexName field.name arguments.sortFields)
    if d.indexes.any fun i => i.model == type && !name.isEmpty && i.name == name then
      .error (.duplicateIndex name type)
    let key ← resolveKey doc type field arguments.sortFields (.index name)
    .ok { d with
      indexes := d.indexes ++ [⟨name, type, key, primaryPartition? doc type, arguments.queryField⟩] }

/-! ## statements -/

/-- The statement that arguments give or refer to. -/
def resolveStatement (config : Config) (type field : String) (a : SqlArguments) : Except Misuse String :=
  match a.statement, a.reference with
  | some _, some _ => .error (.sqlStatementAndReference type field)
  | some statement, none => if Text.isBlank statement then .error (.sqlBlankStatement type field) else .ok statement
  | none, some reference =>
    match config.statement? reference with
    | some statement => .ok statement
    | none => .error (.sqlUnknownReference type field reference)
  | none, none => .error (.sqlWithoutArgument type field)

/-- `@sql` backs a field of a root type with a statement. -/
def sqlRule (config : Config) : Rule where
  directives := ["sql"]
  declare o d := do
    let type := o.owner.name
    match o.field with
    | none => .error (.sqlNotOnField type)
    | some field =>
      if type != Schema.queryType && type != Schema.mutationType then .error (.sqlNotOnRoot type field.name)
      let arguments ← readArguments Decode.sqlArguments o.directive
      let statement ← resolveStatement config type field.name arguments
      .ok { d with sqlFields := d.sqlFields ++ [⟨type, field.name, statement, arguments.reference⟩] }

/-! ## renames -/

/-- The kind of a rename directive. -/
def RenameKind.of (directive : String) : RenameKind :=
  if directive == RenameKind.mapsTo.directive then .mapsTo else .refersTo

/-- `@mapsTo` renames a model, and `@refersTo` a relational model or one of its fields. -/
def renameRule (sources : DataSources) : Rule where
  directives := [RenameKind.mapsTo.directive, RenameKind.refersTo.directive]
  declare o d := do
    let type := o.owner.name
    let kind := RenameKind.of o.directive.name
    if !isModelDef o.owner then .error (.renameNotOnModel kind type)
    let name ← readArguments Decode.nameArgument o.directive
    match kind, o.field with
    | .mapsTo, some _ => .error .mapsToOnField
    | .mapsTo, none => .ok { d with renames := d.renames.renameModel type name }
    | .refersTo, field =>
      if !sources.isSqlModel type then .error .refersToOnTable
      match field with
      | none => .ok { d with renames := d.renames.renameModel type name }
      | some f => .ok { d with renames := d.renames.renameField type ⟨name, f.name⟩ }

end ModelApi
