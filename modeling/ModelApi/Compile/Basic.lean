import ModelApi.Directive.Basic
import ModelApi.Renames
import ModelApi.Resolver.Stages
import ModelApi.Resolver.SyncQuery
import ModelApi.Stack

/-!
# Building an API

A project is what a compilation starts from and does not change. The output is what it fills: the stack, the resolvers,
the renames and the keys registered for sync. A step that fails keeps what it did to the output before.
-/

namespace ModelApi

/-- The fixed input of a compilation. -/
structure Project where
  config : Config
  doc : Schema.Document
  dataSources : DataSources
  models : OrderedMap String Model

/-- What a compilation fills. -/
structure Output where
  stack : Stack := {}
  registry : Registry := .empty
  renames : Renames := {}
  syncKeys : SyncKeys := .empty

instance : Inhabited Output := ⟨{}⟩

/-- Why a step fails. -/
inductive BuildError where
  | tableNotFound (id : String)
  | dataSourceNotFound (name : String)
  | missingIndexName
  | missingQueryField
  | unknownDbType (tag : String)
  | modelWithoutDataSource (model : String)
  | duplicateResolver (key : ResolverKey)
  | sqlWithoutDataSource (key : ResolverKey)
  deriving DecidableEq, Repr

def BuildError.message : BuildError → String
  | .tableNotFound id => "Table not found in stack with table name " ++ id
  | .dataSourceNotFound name => "Could not find datasource with name " ++ name ++ " in context."
  | .missingIndexName => "Expected name while updating index resolvers."
  | .missingQueryField => "Expected name and queryField to be defined while generating resolver."
  | .unknownDbType tag => "Unknown database type " ++ tag
  | .modelWithoutDataSource model => "No datasource found for model " ++ model
  | .duplicateResolver key => "A resolver for " ++ key.text ++ " already exists."
  | .sqlWithoutDataSource key => "No SQL data source strategy is configured for " ++ key.text

/-- A step that changes the output and may fail. -/
abbrev Build (α : Type) := ExceptT BuildError (StateM Output) α

namespace Project

variable (p : Project)

/-- Whether a model is known to be relational. -/
def isSqlModel (model : String) : Bool := p.dataSources.isSqlModel model

/-- The strategy of a model. -/
def strategy (model : String) : Except BuildError Strategy :=
  match p.dataSources.get? model with
  | some s => .ok s
  | none => .error (.modelWithoutDataSource model)

/-- The database of a model. -/
def dbType (model : String) : Except BuildError DbType := (p.strategy model).map (·.dbType)

/-- The resolver of an operation, if the model offers it. -/
def resolverKey? (model : String) (o : Operation) : Option ResolverKey := (p.models.get? model).bind (·.key? o)

/-- The template that refuses requests no rule has let through. -/
def gate : String := gateTemplate p.config.parameters.sandboxMode

end Project

namespace Output

/-- The table of a model. -/
def table (o : Output) (model : String) : Except BuildError Table :=
  match o.stack.tables.get? (tableId model) with
  | some t => .ok t
  | none => .error (.tableNotFound (tableId model))

/-- Changes the resolvers. -/
def mapRegistry (f : Registry → Registry) (o : Output) : Output := { o with registry := f o.registry }

/-- Creates the data source that all relational resolvers share, unless it exists. -/
def ensureSqlDataSource (dbType : DbType) (o : Output) : Output :=
  if o.stack.dataSources.contains sqlDataSource then o
  else { o with stack := o.stack.addDataSource ⟨sqlDataSource, sqlStack, .function sqlFunction dbType⟩ }

/-- Adds the choice among registered keys to the sync resolvers. -/
def applySync (o : Output) : Output :=
  { o with registry := o.registry.applySync o.syncKeys, syncKeys := .empty }

end Output

/-- Adds a resolver. -/
def addResolver (key : ResolverKey) (r : Resolver) : Build Unit := do
  let o ← get
  match o.registry.add? key r with
  | some registry => set { o with registry }
  | none => throw (.duplicateResolver key)

/-- Changes the table of a model. -/
def changeTable (model : String) (change : TableChange) : Build Unit := do
  let o ← get
  let _ ← o.table model
  set { o with stack := o.stack.updateTable (tableId model) (·.apply change) }

end ModelApi
