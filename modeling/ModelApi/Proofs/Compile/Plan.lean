import ModelApi.Compile.Api
import ModelApi.Proofs.Compile.Actions

/-!
# The plan of a compilation

What a project does for its models, keys, indexes and fields with statements, as lists of actions. `Project.plan` is all
of it, in order. The names under which models are stored are settled beforehand and given to the plan. A `mem_` lemma
for each plan says which actions it has.
-/

namespace ModelApi

open Schema (queryType)

namespace Project

variable (p : Project)

/-! ## models -/

/-- The data source of the resolvers of a model. -/
def sourceOf (model : String) : String := if p.isSqlModel model then sqlDataSource else tableId model

def itemOperationPlan (m : Model) (o : Operation) : List Action :=
  (m.key? o).toList.map fun key => .register key (p.operationResolver m o (tableId m.name) (itemRequest o))

def sqlOperationPlan (stored : String → String) (m : Model) (o : Operation) : List Action :=
  (m.key? o).toList.flatMap fun key =>
    [.refer m.name ⟨key.typeName, key.fieldName, o.isListing⟩,
      .register key (p.operationResolver m o sqlDataSource
        (functionRequest p.doc m.name (stored m.name) o.sqlOperation key.fieldName))]

/-- The resources of a model and its operations; `stored` gives the names under which models are stored. -/
def modelPlan (stored : String → String) (m : Model) : List Action :=
  match p.dataSources.get? m.name with
  | none => []
  | some s =>
    match s.provisioning? with
    | some provisioning =>
      .provision m.name (stored m.name) provisioning :: (p.operations m).flatMap (p.itemOperationPlan m)
    | none => .ensureSql s.dbType :: (p.operations m).flatMap (p.sqlOperationPlan stored m)

/-! ## keys and indexes -/

/-- Lines for several operations of a model. -/
def linesPlan (model : String) (entries : List (Operation × List String)) : List Action :=
  entries.flatMap fun e => (p.resolverKey? model e.1).toList.map (.addLines · e.2)

def syncPlan (model name : String) (k : Key) : List Action :=
  if p.config.usesSync then (p.resolverKey? model .sync).toList.map (.registerSync · name k) else []

/-- The operations that a primary key adds lines to, and the lines. -/
def keyedOperations (k : PrimaryKey) : List (Operation × List String) :=
  if p.isSqlModel k.model then
    [Operation.get, .list, .create, .update, .delete, .sync].map fun o => (o, [keyColumnsLine k.key])
  else [Operation.get, .list, .create, .update, .delete].map fun o => (o, p.keyLines k.key o)

def primaryKeyPlan (k : PrimaryKey) : List Action :=
  if p.isSqlModel k.model then p.linesPlan k.model (p.keyedOperations k)
  else .changeTable k.model (.replaceKey k.key.elements (k.key.attributes p.doc)) ::
    (p.linesPlan k.model (p.keyedOperations k) ++ p.syncPlan k.model primaryKeySyncName k.key)

/-- The lines of a mutation that has something to check. -/
def guardedMutation (o : Operation) (checks : List String) : List (Operation × List String) :=
  if checks.all (·.isEmpty) then [] else [(o, mergeTemplate :: checks)]

/-- The mutations that an index guards, and the lines that do it. -/
def guardedMutations (i : Index) : List (Operation × List String) :=
  guardedMutation .create (indexChecks i .create) ++ guardedMutation .update (indexChecks i .update) ++
    guardedMutation .delete [ensureCompositeTemplate i.key false]

/-- The resolver that queries an index. -/
def queryResolver (stored : String → String) (i : Index) (field : String) : Resolver :=
  let bare : Resolver := {
    dataSource := some (p.sourceOf i.model)
    request :=
      if p.isSqlModel i.model then functionRequest p.doc i.model (stored i.model) .index field
      else indexRequest p.doc i
    response := indexResponseTemplate
    stackId := i.model }
  bare.addRequest .postAuth p.gate

def queryPlan (stored : String → String) (i : Index) : List Action :=
  match i.queryField with
  | none => []
  | some field =>
    .register ⟨queryType, field⟩ (p.queryResolver stored i field) ::
      if p.isSqlModel i.model then [.refer i.model ⟨queryType, field, false⟩] else []

def indexPlan (stored : String → String) (i : Index) : List Action :=
  if p.isSqlModel i.model then p.queryPlan stored i
  else .changeTable i.model (p.indexChange i) ::
    (p.linesPlan i.model (guardedMutations i) ++ (p.queryPlan stored i ++ p.syncPlan i.model i.name i.key))

/-! ## fields with statements -/

def statementResolver (f : SqlField) : Resolver :=
  let bare : Resolver := {
    dataSource := some sqlDataSource
    request := statementRequest f.statement f.fieldName
    response := responseTemplate p.config.usesSync (f.typeName == Schema.mutationType)
    stackId := sqlStack }
  bare.addRequest .postAuth p.gate

def sqlFieldPlan (f : SqlField) : List Action :=
  (p.sqlFieldDbType? f).toList.map .ensureSql ++ [.register f.key (p.statementResolver f)]

/-- Everything that is done for what a document declares. -/
def plan (stored : String → String) (d : Declarations) : List Action :=
  p.models.values.flatMap (p.modelPlan stored) ++
    (d.primaryKeys.flatMap p.primaryKeyPlan ++ d.indexes.flatMap (p.indexPlan stored) ++
      d.sqlFields.flatMap p.sqlFieldPlan)

/-! ## the actions of plans -/

variable {p} {stored : String → String} {a : Action}

/-- A model in tables is provisioned and has a resolver for each operation that it offers. A relational model ensures
the data source that all of them share, and notes each of its resolvers. -/
theorem mem_modelPlan {m : Model} :
    a ∈ p.modelPlan stored m ↔ ∃ s, p.dataSources.get? m.name = some s ∧
      ((∃ provisioning, s.provisioning? = some provisioning ∧
        (a = .provision m.name (stored m.name) provisioning ∨ ∃ o ∈ p.operations m, ∃ key, m.key? o = some key ∧
          a = .register key (p.operationResolver m o (tableId m.name) (itemRequest o)))) ∨
      (s.provisioning? = none ∧ (a = .ensureSql s.dbType ∨ ∃ o ∈ p.operations m, ∃ key, m.key? o = some key ∧
        (a = .refer m.name ⟨key.typeName, key.fieldName, o.isListing⟩ ∨
          a = .register key (p.operationResolver m o sqlDataSource
            (functionRequest p.doc m.name (stored m.name) o.sqlOperation key.fieldName)))))) := by
  unfold modelPlan itemOperationPlan sqlOperationPlan
  cases p.dataSources.get? m.name with
  | none => simp
  | some s => cases h : s.provisioning? <;> simp [h, eq_comm]

theorem mem_linesPlan {model : String} {entries : List (Operation × List String)} :
    a ∈ p.linesPlan model entries ↔
      ∃ e ∈ entries, ∃ key, p.resolverKey? model e.1 = some key ∧ a = .addLines key e.2 := by
  simp only [linesPlan, List.mem_flatMap, List.mem_map, Option.mem_toList, eq_comm]

theorem mem_syncPlan {model name : String} {k : Key} :
    a ∈ p.syncPlan model name k ↔
      p.config.usesSync = true ∧ ∃ key, p.resolverKey? model .sync = some key ∧ a = .registerSync key name k := by
  unfold syncPlan
  cases p.config.usesSync <;> simp [eq_comm]

theorem mem_queryPlan {i : Index} :
    a ∈ p.queryPlan stored i ↔ ∃ field, i.queryField = some field ∧
      (a = .register ⟨queryType, field⟩ (p.queryResolver stored i field) ∨
        (p.isSqlModel i.model = true ∧ a = .refer i.model ⟨queryType, field, false⟩)) := by
  unfold queryPlan
  cases i.queryField with
  | none => simp
  | some field => cases p.isSqlModel i.model <;> simp

theorem mem_primaryKeyPlan {k : PrimaryKey} :
    a ∈ p.primaryKeyPlan k ↔ a ∈ p.linesPlan k.model (p.keyedOperations k) ∨
      (p.isSqlModel k.model = false ∧
        (a = .changeTable k.model (.replaceKey k.key.elements (k.key.attributes p.doc)) ∨
          a ∈ p.syncPlan k.model primaryKeySyncName k.key)) := by
  unfold primaryKeyPlan
  cases p.isSqlModel k.model with
  | true => simp
  | false => simp [or_left_comm]

theorem mem_indexPlan {i : Index} :
    a ∈ p.indexPlan stored i ↔ a ∈ p.queryPlan stored i ∨
      (p.isSqlModel i.model = false ∧ (a = .changeTable i.model (p.indexChange i) ∨
        a ∈ p.linesPlan i.model (guardedMutations i) ∨ a ∈ p.syncPlan i.model i.name i.key)) := by
  unfold indexPlan
  cases p.isSqlModel i.model with
  | true => simp
  | false => simp [or_left_comm]

theorem mem_sqlFieldPlan {f : SqlField} :
    a ∈ p.sqlFieldPlan f ↔ (∃ dbType, p.sqlFieldDbType? f = some dbType ∧ a = .ensureSql dbType) ∨
      a = .register f.key (p.statementResolver f) := by
  simp [sqlFieldPlan, eq_comm]

/-- What is read off other actions only is not in a plan of lines. -/
theorem filterMap_linesPlan {α : Type} {f : Action → Option α} (hf : ∀ key lines, f (.addLines key lines) = none)
    (model : String) (entries : List (Operation × List String)) : (p.linesPlan model entries).filterMap f = [] := by
  refine List.filterMap_eq_nil_iff.2 fun a ha => ?_
  obtain ⟨e, -, key, -, rfl⟩ := mem_linesPlan.1 ha
  exact hf key e.2

theorem filterMap_syncPlan {α : Type} {f : Action → Option α} (hf : ∀ key name k, f (.registerSync key name k) = none)
    (model name : String) (k : Key) : (p.syncPlan model name k).filterMap f = [] := by
  refine List.filterMap_eq_nil_iff.2 fun a ha => ?_
  obtain ⟨-, key, -, rfl⟩ := mem_syncPlan.1 ha
  exact hf key name k

end Project

end ModelApi
