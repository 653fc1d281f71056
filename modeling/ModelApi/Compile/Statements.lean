import ModelApi.Compile.Basic
import ModelApi.Resolver.FunctionRequest
import ModelApi.Resolver.Stages

/-!
# Fields backed by statements

A root field with a statement of its own is answered by the SQL function.
-/

namespace ModelApi.Project

variable (p : Project)

/-- The database of a field: the one configured for it, else the default one if it is relational, else that of the first
relational model. -/
def sqlFieldDbType? (f : SqlField) : Option DbType :=
  let configured := (p.config.customSql? f.typeName f.fieldName).map (·.strategy.dbType)
  let standard := (p.config.defaultDataSource.map (·.dbType)).filter (·.isSql)
  let first := (p.dataSources.values.map (·.dbType)).find? (·.isSql)
  ((configured.or standard).or first).filter (·.isSql)

/-- Adds the resolver of a field. -/
def addSqlField (f : SqlField) : Build Unit :=
  match p.sqlFieldDbType? f with
  | none => throw (.sqlWithoutDataSource f.key)
  | some dbType => do
    modify (·.ensureSqlDataSource dbType)
    let bare : Resolver := {
      dataSource := some sqlDataSource
      request := statementRequest f.statement f.fieldName
      response := responseTemplate p.config.usesSync (f.typeName == Schema.mutationType)
      stackId := sqlStack }
    addResolver f.key (bare.addRequest .postAuth p.gate)

/-- Adds the resolvers of all fields. -/
def addSqlFields (fields : List SqlField) : Build Unit := fields.forM p.addSqlField

end ModelApi.Project
