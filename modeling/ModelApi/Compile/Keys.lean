import ModelApi.Compile.Basic
import ModelApi.Resolver.FunctionRequest
import ModelApi.Resolver.Stages

/-!
# Applying keys and indexes

What a key changes in a resolver goes into its slot before authorization. The table of a model gets its key replaced
and its indexes added; relational models only learn which columns make up their key.
-/

namespace ModelApi

namespace Project

variable (p : Project)

/-- Adds lines to an operation of a model, if there is a resolver for it. -/
def addOperationLines (model : String) (o : Operation) (lines : List String) (out : Output) : Output :=
  match p.resolverKey? model o with
  | none => out
  | some key => out.mapRegistry (·.update key (·.addLines lines false))

/-- Registers a key with the sync operation of a model, if it has one and the project uses sync. -/
def registerSync (model name : String) (k : Key) (out : Output) : Output :=
  match p.config.usesSync, p.resolverKey? model .sync with
  | true, some key => { out with syncKeys := out.syncKeys.register key name k }
  | _, _ => out

/-! ## primary keys -/

/-- Swaps the key of the table of a model. -/
def replaceTableKey (k : PrimaryKey) : Build Unit :=
  changeTable k.model (.replaceKey k.key.elements (k.key.attributes p.doc))

/-- The lines that a primary key adds to an operation of a model that is kept in a table. -/
def keyLines (k : Key) : Operation → List String
  | .get => [objectKeyTemplate k false]
  | .list => [(keyQuery p.doc k true).print,
      "$util.qr($ctx.stash.put(\"" ++ queryVariable ++ "\", $" ++ queryVariable ++ "))"]
  | .create | .update => [mergeTemplate, objectKeyTemplate k true, ensureCompositeTemplate k false]
  | .delete => [mergeTemplate, objectKeyTemplate k true]
  | .sync => []

/-- Teaches the operations of a model in a table its primary key. -/
def applyTableKey (k : PrimaryKey) (out : Output) : Output :=
  let out := [Operation.get, .list, .create, .update, .delete].foldl
    (fun out o => p.addOperationLines k.model o (p.keyLines k.key o) out) out
  p.registerSync k.model primaryKeySyncName k.key out

/-- The line that names the key columns of a relational model. -/
def keyColumnsLine (k : Key) : String :=
  "$util.qr($ctx.stash.put(\"keys\", [" ++ Text.joinWith ", " (k.names.map fun n => "\"" ++ n ++ "\"") ++ "]))"

/-- Teaches the operations of a relational model its primary key. -/
def applySqlKey (k : PrimaryKey) (out : Output) : Output :=
  [Operation.get, .list, .create, .update, .delete, .sync].foldl
    (fun out o => p.addOperationLines k.model o [keyColumnsLine k.key] out) out

/-- Applies a primary key. -/
def applyPrimaryKey (k : PrimaryKey) : Build Unit :=
  if p.isSqlModel k.model then modify (p.applySqlKey k)
  else do
    p.replaceTableKey k
    modify (p.applyTableKey k)

/-! ## secondary indexes -/

/-- Whether an index can share the partition key of its table. -/
def isLocal (index : Index) : Bool :=
  !p.config.parameters.secondaryKeyAsGsi &&
    (index.primaryPartition.map (·.name)).getD "id" == index.key.partition.name

/-- The change that adds an index to its table. -/
def indexChange (index : Index) : TableChange :=
  let attributes := index.key.attributes p.doc
  let key := fun name => TableKey.mk name (Table.typeIn attributes name)
  let sort := index.key.sortAttribute?.map key
  if p.isLocal index then .addLocal ⟨index.name, sort⟩
  else .addGlobal ⟨index.name, key index.key.partition.name, sort, parameter readCapacityParameter,
    parameter writeCapacityParameter⟩

/-- Adds an index to the table of its model. Relational models have none. -/
def provisionIndex (index : Index) : Build Unit :=
  if p.isSqlModel index.model then pure ()
  else if index.name.isEmpty then throw .missingIndexName
  else changeTable index.model (p.indexChange index)

/-- The checks of a composite sort key in a mutation. -/
def indexChecks (index : Index) (m : KeyMutation) : List String :=
  [validateIndexTemplate index m, ensureCompositeTemplate index.key true]

/-- Guards a mutation of the model, when there is something to check. -/
def guardMutation (index : Index) (o : Operation) (checks : List String) (out : Output) : Output :=
  if checks.all (·.isEmpty) then out else p.addOperationLines index.model o (mergeTemplate :: checks) out

/-- Keeps the composite sort key of an index in line in all mutations of its model. -/
def guardIndex (index : Index) (out : Output) : Output :=
  let out := p.guardMutation index .create (indexChecks index .create) out
  let out := p.guardMutation index .update (indexChecks index .update) out
  p.guardMutation index .delete [ensureCompositeTemplate index.key false] out

/-! ## queries on indexes -/

end Project

/-- How queries on indexes are answered. -/
inductive IndexBackend where
  | table | function
  deriving DecidableEq, Repr

/-- The backend that a database tag names; no tag stands for tables. -/
def IndexBackend.ofTag : Option String → Except BuildError IndexBackend
  | none => .ok .table
  | some tag =>
    match DbType.ofTag? tag with
    | some dbType => .ok (if dbType.isSql then .function else .table)
    | none => .error (.unknownDbType tag)

namespace Project

variable (p : Project)

/-- The request of a query on an index. -/
def indexQueryRequest (backend : IndexBackend) (index : Index) (model operationName : String) (renames : Renames) :
    String :=
  match backend with
  | .table => indexRequest p.doc index
  | .function => functionRequest p.doc model (renames.storedModel model) .index operationName

/-- The root field that queries an index; the index has to have a name. -/
def queryFieldOf (index : Index) : Except BuildError String :=
  match index.queryField with
  | some field => if index.name.isEmpty then .error .missingQueryField else .ok field
  | none => .error .missingQueryField

/-- The data source of an index query, and the stack its resolver goes to. -/
def querySource (index : Index) (dbType : DbType) (out : Output) : Except BuildError (String × String) :=
  if dbType.isSql then .ok (sqlDataSource, index.model)
  else (out.table index.model).map fun t => (tableId index.model, t.stackId)

/-- Adds the resolver that queries an index. -/
def addIndexQuery (index : Index) (dbType : DbType) : Build Unit := do
  let field ← queryFieldOf index
  let out ← get
  let (dataSource, stackId) ← querySource index dbType out
  if !out.stack.dataSources.contains dataSource then throw (.dataSourceNotFound dataSource)
  let backend ← IndexBackend.ofTag (some dbType.tag)
  let bare : Resolver := {
    dataSource := some dataSource
    request := p.indexQueryRequest backend index index.model field out.renames
    response := indexResponseTemplate
    stackId }
  addResolver ⟨Schema.queryType, field⟩ (bare.addRequest .postAuth p.gate)
  if dbType.isSql then
    modify fun out => { out with renames := out.renames.refer index.model ⟨Schema.queryType, field, false⟩ }

/-- Teaches the operations of a model an index, and adds its query. -/
def applyIndexToResolvers (index : Index) : Build Unit := do
  if index.name.isEmpty then throw .missingIndexName
  let dbType ← p.dbType index.model
  if dbType = .dynamodb then modify (p.guardIndex index)
  if index.queryField.isSome then p.addIndexQuery index dbType
  if dbType = .dynamodb then modify (p.registerSync index.model index.name index.key)

/-- Applies an index. -/
def applyIndex (index : Index) : Build Unit := do
  p.provisionIndex index
  p.applyIndexToResolvers index

/-- Applies all primary keys, then all indexes. -/
def applyKeys (primaryKeys : List PrimaryKey) (indexes : List Index) : Build Unit := do
  primaryKeys.forM p.applyPrimaryKey
  indexes.forM p.applyIndex

end Project

end ModelApi
