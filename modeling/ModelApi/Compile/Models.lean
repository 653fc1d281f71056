import ModelApi.Compile.Basic
import ModelApi.Resolver.FunctionRequest
import ModelApi.Resolver.Stages

/-!
# Resources and operations of models

Every model gets a data source, a table when it is kept in one, and a resolver for each operation it offers. Keys and
indexes are laid over these afterwards.
-/

namespace ModelApi

namespace Project

variable (p : Project)

/-- The operations that a model offers; sync only when the project uses it. -/
def operations (m : Model) : List Operation :=
  Operation.all.filter fun o => (p.config.usesSync || o != .sync) && (m.field? o).isSome

/-- The templates that the first slot of an operation starts with. -/
def initialTemplates (m : Model) (o : Operation) : List String :=
  (defaultValuesTemplate m o (p.doc.field? m.name "id").isSome).toList ++
    (if o = .sync then (p.config.sync.map fun s => deltaTemplate s.deltaTtl).toList else [])

/-- The resolver of an operation, with the templates that all stores share. -/
def operationResolver (m : Model) (o : Operation) (dataSource request : String) : Resolver :=
  let response := responseTemplate p.config.usesSync o.isMutation
  let bare : Resolver := { dataSource := some dataSource, request, response, stackId := m.name }
  ((p.initialTemplates m o).foldl (fun r t => r.addRequest .init t) bare).addRequest .postAuth p.gate

/-- Adds an operation of a model that is kept in a table. -/
def addItemOperation (m : Model) (o : Operation) : Build Unit :=
  match m.key? o with
  | none => pure ()
  | some key => addResolver key (p.operationResolver m o (tableId m.name) (itemRequest o))

/-- Adds the table of a model, its data source and its operations. -/
def addTableModel (m : Model) (provisioning : Provisioning) : Build Unit := do
  modify fun o =>
    let table := Table.new m.name (o.renames.storedModel m.name) provisioning
    { o with stack := (o.stack.addDataSource ⟨table.id, table.stackId, .table table.id⟩).addTable table }
  (p.operations m).forM (p.addItemOperation m)

/-- Adds an operation of a relational model. -/
def addSqlOperation (m : Model) (o : Operation) : Build Unit :=
  match m.key? o with
  | none => pure ()
  | some key => do
    let stored := (← get).renames.storedModel m.name
    modify fun out =>
      { out with renames := out.renames.refer m.name ⟨key.typeName, key.fieldName, o.isListing⟩ }
    addResolver key (p.operationResolver m o sqlDataSource
      (functionRequest p.doc m.name stored o.sqlOperation key.fieldName))

/-- Adds the operations of a relational model. -/
def addSqlModel (m : Model) (dbType : DbType) : Build Unit := do
  modify (·.ensureSqlDataSource dbType)
  (p.operations m).forM (p.addSqlOperation m)

/-- Adds a model. -/
def addModel (m : Model) : Build Unit := do
  let strategy ← p.strategy m.name
  match strategy.provisioning? with
  | some provisioning => p.addTableModel m provisioning
  | none => p.addSqlModel m strategy.dbType

/-- Adds all models. -/
def addModels : Build Unit := p.models.values.forM p.addModel

end Project

end ModelApi
