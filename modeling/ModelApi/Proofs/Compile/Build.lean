import ModelApi.Proofs.Compile.Plan
import ModelApi.Proofs.Compile.Steps
import ModelApi.Proofs.Directive.Collect

/-!
# The build carries out its plan

Every step of the build performs its part of the plan. Models come first and need nothing; keys, indexes and queries
rely on the tables and data sources of the models, which no action takes away again.

* `Project.Ready`: all that later steps look up is there;
* `build_performs`: the build carries out the plan exactly when every index has a name, every field with a statement has
  a database, and no root field is asked for twice;
* `compileDocument_eq_ok`: when a document compiles, and to what.
-/

namespace ModelApi

open Schema (Document queryType)

theorem tableId_injective {model other : String} (h : tableId model = tableId other) : model = other := by
  have hchars : model.toList ++ "Table".toList = other.toList ++ "Table".toList := by
    simpa [tableId, String.toList_append] using congrArg String.toList h
  exact String.toList_inj.1 (List.append_cancel_right hchars)

@[simp] theorem Table.stackId_apply (t : Table) (change : TableChange) : (t.apply change).stackId = t.stackId := by
  cases change <;> rfl

namespace Output

/-- Models are stored under the given names. -/
def StoredAs (stored : String → String) (out : Output) : Prop := out.renames.storedModel = stored

/-- The names are settled before the build. -/
theorem StoredAs.after {stored : String → String} (plan : List Action) {out : Output} (h : out.StoredAs stored) :
    (out.after plan).StoredAs stored :=
  after_preserves (fun a _ o ho => (storedModel_perform o a).trans ho) h

/-- What one part of a plan achieves and no action undoes is there at the end. -/
theorem after_flatMap_of_mem {α : Type} {Q : Output → Prop}
    (hQ : ∀ (a : Action) (out : Output), Q out → Q (out.perform a)) {plan : α → List Action} {l : List α} {x : α}
    (hx : x ∈ l) (hplan : ∀ out : Output, Q (out.after (plan x))) (out : Output) : Q (out.after (l.flatMap plan)) := by
  obtain ⟨before, rest, rfl⟩ := List.append_of_mem hx
  rw [List.flatMap_append, List.flatMap_cons, after_append, after_append]
  exact after_preserves (fun a _ o => hQ a o) (hplan _)

end Output

namespace Project

variable (p : Project)

/-- Models go by their names and have strategies. -/
structure Grounded : Prop where
  named : ∀ e ∈ p.models.entries, e.2.name = e.1
  sourced : ∀ model ∈ p.models.keys, (p.dataSources.get? model).isSome

/-- What the keys of a model rely on: its data source and, unless it is relational, its table. -/
structure Serves (model : String) (out : Output) : Prop where
  table : p.isSqlModel model = false → (out.stack.tables.get? (tableId model)).map (·.stackId) = some model
  dataSource : p.sourceOf model ∈ out.stack.dataSources.keys

/-- Everything that the steps after the models look up. -/
structure Ready (stored : String → String) (out : Output) : Prop where
  storedAs : out.StoredAs stored
  serves : ∀ model ∈ p.models.keys, p.Serves model out

variable {p}

theorem Serves.perform {model : String} (a : Action) {out : Output} (h : p.Serves model out) :
    p.Serves model (out.perform a) := by
  refine ⟨fun hsql => ?_, Output.dataSources_perform out a h.dataSource⟩
  rw [Output.tables_perform]
  have ht := h.table hsql
  cases a with
  | provision other stored provisioning =>
    rw [Action.onTables, OrderedMap.get?_insert]
    split
    next heq => simp [tableId_injective heq, Table.new]
    next => exact ht
  | changeTable other change =>
    rw [Action.onTables, OrderedMap.get?_update]
    split
    next => simpa [Option.map_map, Function.comp_def] using ht
    next => exact ht
  | _ => exact ht

theorem Ready.after {stored : String → String} (plan : List Action) {out : Output} (h : p.Ready stored out) :
    p.Ready stored (out.after plan) :=
  ⟨h.storedAs.after plan,
    fun model hm => Output.after_preserves (fun a _ _ ho => ho.perform a) (h.serves model hm)⟩

/-- The relational models are those without tables. -/
theorem isSqlModel_eq {model : String} {s : Strategy} (hs : p.dataSources.get? model = some s) :
    p.isSqlModel model = s.provisioning?.isNone := by
  rw [isSqlModel, DataSources.isSqlModel, hs]
  cases s <;> rfl

/-! ## models -/

theorem addItemOperation_performs (m : Model) (o : Operation) {P : Output → Prop} :
    Performs P True (p.itemOperationPlan m o) (p.addItemOperation m o) := by
  unfold itemOperationPlan addItemOperation
  cases m.key? o with
  | none => exact Performs.pure
  | some key => exact Performs.addResolver key _

theorem addSqlOperation_performs {stored : String → String} (m : Model) (o : Operation) :
    Performs (Output.StoredAs stored) True (p.sqlOperationPlan stored m o)
      (p.addSqlOperation m o) := by
  unfold sqlOperationPlan addSqlOperation
  cases m.key? o with
  | none => exact Performs.pure
  | some key =>
    refine Performs.get_bind fun out hout => ?_
    rw [show out.renames.storedModel = stored from hout]
    have hrefer : Performs (Output.StoredAs stored) True
        [.refer m.name ⟨key.typeName, key.fieldName, o.isListing⟩] (modify fun out =>
          { out with renames := out.renames.refer m.name ⟨key.typeName, key.fieldName, o.isListing⟩ }) :=
      Performs.modify rfl fun _ _ => rfl
    have hadd := Performs.addResolver (P := Output.StoredAs stored) key (p.operationResolver m o
      sqlDataSource (functionRequest p.doc m.name (stored m.name) o.sqlOperation key.fieldName))
    exact (hrefer.seq hadd fun out ho => ho).congr (by simp)

theorem addModel_performs {stored : String → String} {m : Model} (hm : (p.dataSources.get? m.name).isSome) :
    Performs (Output.StoredAs stored) True (p.modelPlan stored m) (p.addModel m) := by
  obtain ⟨s, hs⟩ := Option.isSome_iff_exists.1 hm
  have hstrategy : p.strategy m.name = .ok s := by simp [strategy, hs]
  refine Performs.lift_bind hstrategy ?_
  simp only [modelPlan, hs]
  cases s.provisioning? with
  | some provisioning =>
    have htable : Performs (Output.StoredAs stored) True
        [.provision m.name (stored m.name) provisioning] (modify fun o =>
          let table := Table.new m.name (o.renames.storedModel m.name) provisioning
          { o with stack := (o.stack.addDataSource ⟨table.id, table.stackId, .table table.id⟩).addTable table }) := by
      refine Performs.modify rfl fun out hout => ?_
      rw [← hout]
      rfl
    have hops := Performs.forM (P := Output.StoredAs stored) (fun o _ => p.addItemOperation_performs m o)
      (l := p.operations m) fun _ _ _ h => h.after _
    exact (htable.seq hops fun _ h => h.after _).congr (by simp)
  | none =>
    have hsource : Performs (Output.StoredAs stored) True [.ensureSql s.dbType]
        (modify (·.ensureSqlDataSource s.dbType)) := Performs.modify rfl fun _ _ => rfl
    have hops := Performs.forM (P := Output.StoredAs stored) (fun o _ => p.addSqlOperation_performs m o)
      (l := p.operations m) fun _ _ _ h => h.after _
    exact (hsource.seq hops fun _ h => h.after _).congr (by simp)

/-- A model that is listed has an entry under its name. -/
theorem Grounded.mem_keys (hp : p.Grounded) {m : Model} (hm : m ∈ p.models.values) : m.name ∈ p.models.keys := by
  obtain ⟨e, he, rfl⟩ := List.mem_map.1 hm
  rw [hp.named e he]
  exact List.mem_map_of_mem he

theorem addModels_performs (hp : p.Grounded) (stored : String → String) :
    Performs (Output.StoredAs stored) True (p.models.values.flatMap (p.modelPlan stored))
      p.addModels := by
  have hmodels := Performs.forM (P := Output.StoredAs stored)
    (fun m hm => addModel_performs (hp.sourced _ (hp.mem_keys hm))) fun _ _ _ h => h.after _
  exact hmodels.congr (by simp)

/-- The first action for a model creates what its keys rely on. -/
theorem serves_after_model {m : Model} (hm : (p.dataSources.get? m.name).isSome) (stored : String → String)
    (out : Output) : p.Serves m.name (out.after (p.modelPlan stored m)) := by
  obtain ⟨s, hs⟩ := Option.isSome_iff_exists.1 hm
  have hsql := isSqlModel_eq hs
  simp only [modelPlan, hs]
  cases hprov : s.provisioning? with
  | some provisioning =>
    rw [hprov] at hsql
    have hfirst : p.Serves m.name (out.perform (.provision m.name (stored m.name) provisioning)) := by
      refine ⟨fun _ => ?_, ?_⟩
      · rw [Output.tables_perform, Action.onTables, OrderedMap.get?_insert, if_pos rfl]
        rfl
      · rw [sourceOf, hsql]
        exact (OrderedMap.mem_keys_insert _).2 (.inl rfl)
    rw [Output.after_cons]
    exact Output.after_preserves (fun a _ _ ho => ho.perform a) hfirst
  | none =>
    rw [hprov] at hsql
    have hfirst : p.Serves m.name (out.perform (.ensureSql s.dbType)) := by
      refine ⟨fun h => ?_, ?_⟩
      · rw [hsql] at h
        cases h
      · obtain ⟨sources, heq, hmem, -⟩ := Output.ensureSqlDataSource_eq s.dbType out
        rw [sourceOf, hsql, Output.perform, heq]
        exact hmem
    rw [Output.after_cons]
    exact Output.after_preserves (fun a _ _ ho => ho.perform a) hfirst

/-- Once all models are there, so is what the keys rely on. -/
theorem ready_after_models (hp : p.Grounded) (stored : String → String) {out : Output}
    (hout : out.StoredAs stored) : p.Ready stored (out.after (p.models.values.flatMap (p.modelPlan stored))) := by
  refine ⟨hout.after _, fun model hmodel => ?_⟩
  have hsourced := hp.sourced model hmodel
  obtain ⟨e, he, rfl⟩ := List.mem_map.1 hmodel
  rw [← hp.named e he] at hsourced ⊢
  exact Output.after_flatMap_of_mem (fun a _ ho => ho.perform a) (List.mem_map_of_mem he)
    (serves_after_model hsourced stored) out

/-! ## keys -/

theorem linesPlan_append (model : String) (entries more : List (Operation × List String)) :
    p.linesPlan model (entries ++ more) = p.linesPlan model entries ++ p.linesPlan model more :=
  List.flatMap_append

variable (p) in
theorem addOperationLines_eq (model : String) (o : Operation) (lines : List String) (out : Output) :
    p.addOperationLines model o lines out = out.after (p.linesPlan model [(o, lines)]) := by
  unfold addOperationLines linesPlan
  cases h : p.resolverKey? model o <;> simp [h, Output.perform]

variable (p) in
theorem registerSync_eq (model name : String) (k : Key) (out : Output) :
    p.registerSync model name k out = out.after (p.syncPlan model name k) := by
  unfold registerSync syncPlan
  cases p.config.usesSync <;> cases p.resolverKey? model .sync <;> rfl

/-- Adding lines to one operation after the other. -/
theorem foldl_addOperationLines (model : String) (lines : Operation → List String) (l : List Operation)
    (out : Output) :
    l.foldl (fun out o => p.addOperationLines model o (lines o) out) out =
      out.after (p.linesPlan model (l.map fun o => (o, lines o))) := by
  induction l generalizing out with
  | nil => rfl
  | cons o l ih =>
    rw [List.foldl_cons, ih, addOperationLines_eq, ← Output.after_append, ← linesPlan_append]
    rfl

theorem keyless_linesPlan (model : String) (entries : List (Operation × List String)) :
    (p.linesPlan model entries).filterMap Action.key? = [] := filterMap_linesPlan (fun _ _ => rfl) model entries

theorem keyless_syncPlan (model name : String) (k : Key) :
    (p.syncPlan model name k).filterMap Action.key? = [] := filterMap_syncPlan (fun _ _ _ => rfl) model name k

/-- A table of a model that is kept in one can be changed. -/
theorem changeTable_performs {stored : String → String} {model : String} (hm : model ∈ p.models.keys)
    (hsql : p.isSqlModel model = false) (change : TableChange) :
    Performs (p.Ready stored) True [.changeTable model change] (changeTable model change) := by
  refine Performs.changeTable (fun out hout => ?_) change
  have ht := (hout.serves model hm).table hsql
  rw [Option.map_eq_some_iff] at ht
  obtain ⟨t, ht, -⟩ := ht
  simp [ht]

theorem applyPrimaryKey_performs {stored : String → String} {k : PrimaryKey} (hk : k.model ∈ p.models.keys) :
    Performs (p.Ready stored) True (p.primaryKeyPlan k) (p.applyPrimaryKey k) := by
  unfold primaryKeyPlan applyPrimaryKey keyedOperations
  cases hsql : p.isSqlModel k.model with
  | true => exact Performs.modify (keyless_linesPlan _ _) fun out _ => foldl_addOperationLines k.model _ _ out
  | false =>
    have hlines : Performs (p.Ready stored) True
        (p.linesPlan k.model ([Operation.get, .list, .create, .update, .delete].map fun o => (o, p.keyLines k.key o)) ++
          p.syncPlan k.model primaryKeySyncName k.key) (modify (p.applyTableKey k)) := by
      refine Performs.modify ?_ fun out _ => ?_
      · rw [List.filterMap_append, keyless_linesPlan, keyless_syncPlan]
        rfl
      · rw [Output.after_append, applyTableKey, registerSync_eq, foldl_addOperationLines]
    exact ((changeTable_performs hk hsql _).seq hlines fun _ h => h.after _).congr (by simp)

/-! ## indexes -/

theorem ofTag_tag (dbType : DbType) :
    IndexBackend.ofTag (some dbType.tag) = .ok (if dbType.isSql then .function else .table) := by
  cases dbType <;> rfl

theorem guardMutation_eq (i : Index) (o : Operation) (checks : List String) (out : Output) :
    p.guardMutation i o checks out = out.after (p.linesPlan i.model (guardedMutation o checks)) := by
  unfold guardMutation guardedMutation
  split
  · rfl
  · rw [addOperationLines_eq]

theorem guardIndex_eq (i : Index) (out : Output) :
    p.guardIndex i out = out.after (p.linesPlan i.model (guardedMutations i)) := by
  simp only [guardIndex, guardMutation_eq, guardedMutations, linesPlan_append, Output.after_append]

/-- The query on an index finds its data source. -/
theorem addIndexQuery_performs {stored : String → String} {i : Index} {field : String} {s : Strategy}
    (hi : i.model ∈ p.models.keys) (hs : p.dataSources.get? i.model = some s) (hname : i.name ≠ "")
    (hfield : i.queryField = some field) :
    Performs (p.Ready stored) True (p.queryPlan stored i) (p.addIndexQuery i s.dbType) := by
  have hnamed : i.name.isEmpty = false := by simpa using hname
  have hsql : p.isSqlModel i.model = s.dbType.isSql := by
    rw [isSqlModel, DataSources.isSqlModel, hs]
    rfl
  -- the look-ups succeed one after the other: the field, the table, the data source, the backend
  have hquery : queryFieldOf i = .ok field := by simp [queryFieldOf, hfield, hnamed]
  refine Performs.lift_bind hquery (Performs.get_bind fun out hout => ?_)
  have hserves := hout.serves i.model hi
  have hsource : querySource i s.dbType out = .ok (p.sourceOf i.model, i.model) := by
    unfold querySource sourceOf
    rw [← hsql]
    cases h : p.isSqlModel i.model with
    | true => rfl
    | false =>
      obtain ⟨t, ht, hstack⟩ := Option.map_eq_some_iff.1 (hserves.table h)
      simp [Output.table, ht, hstack, Except.map]
  have hfound : out.stack.dataSources.contains (p.sourceOf i.model) = true :=
    (OrderedMap.contains_iff _ _).2 hserves.dataSource
  refine Performs.lift_bind hsource ?_
  simp only [hfound]
  refine Performs.lift_bind (ofTag_tag s.dbType) ?_
  have hresolver : Resolver.addRequest ⟨some (p.sourceOf i.model), p.indexQueryRequest (if s.dbType.isSql then .function
      else .table) i i.model field out.renames, indexResponseTemplate, i.model, {}⟩ .postAuth p.gate =
        p.queryResolver stored i field := by
    unfold queryResolver
    rw [hsql, ← show out.renames.storedModel = stored from hout.storedAs]
    cases s.dbType.isSql <;> rfl
  have hadd := Performs.addResolver (P := p.Ready stored) ⟨queryType, field⟩ (p.queryResolver stored i field)
  simp only [hresolver, queryPlan, hfield, hsql]
  cases s.dbType.isSql with
  | true =>
    have hrefer : Performs (p.Ready stored) True [.refer i.model ⟨queryType, field, false⟩] (modify fun out =>
        { out with renames := out.renames.refer i.model ⟨queryType, field, false⟩ }) :=
      Performs.modify rfl fun _ _ => rfl
    exact (hadd.seq hrefer fun _ h => h.after _).congr (by simp)
  | false => exact (hadd.seq Performs.pure fun _ h => h.after _).congr (by simp)

theorem applyIndexToResolvers_performs {stored : String → String} {i : Index} (hi : i.model ∈ p.models.keys)
    (hs : (p.dataSources.get? i.model).isSome) :
    Performs (p.Ready stored) (i.name ≠ "")
      (if p.isSqlModel i.model then p.queryPlan stored i
        else p.linesPlan i.model (guardedMutations i) ++
          (p.queryPlan stored i ++ p.syncPlan i.model i.name i.key)) (p.applyIndexToResolvers i) := by
  obtain ⟨s, hs⟩ := Option.isSome_iff_exists.1 hs
  have hdb : p.dbType i.model = .ok s.dbType := by simp [dbType, strategy, hs, Except.map]
  unfold applyIndexToResolvers
  -- the name is checked here too: a relational model has no table that would have asked for it
  by_cases hname : i.name = ""
  · have hempty : i.name.isEmpty = true := by simpa using hname
    simp only [hempty]
    exact (Performs.throw (e := .missingIndexName) trivial).congr (by simp [hname])
  have hnamed : i.name.isEmpty = false := by simpa using hname
  simp only [hnamed]
  refine Performs.congr (Performs.lift_bind hdb ?_) (iff_of_true trivial hname)
  have hquery : Performs (p.Ready stored) True (p.queryPlan stored i)
      (if i.queryField.isSome then p.addIndexQuery i s.dbType else pure ()) := by
    cases hfield : i.queryField with
    | none =>
      rw [queryPlan, hfield]
      exact Performs.pure
    | some field => exact addIndexQuery_performs hi hs hname hfield
  have hitem : s.dbType = .dynamodb ↔ ¬ p.isSqlModel i.model := by
    rw [isSqlModel, DataSources.isSqlModel, hs]
    cases s <;> simp [Strategy.isSql, Strategy.dbType, DbType.isSql]
  simp only [hitem]
  cases p.isSqlModel i.model with
  | true =>
    have hrest := (hquery.seq Performs.pure fun _ h => h.after _).ite_bind
    rw [List.append_nil] at hrest
    exact hrest.congr (by simp)
  | false =>
    have hguard : Performs (p.Ready stored) True (p.linesPlan i.model (guardedMutations i))
        (modify (p.guardIndex i)) := Performs.modify (keyless_linesPlan _ _) fun out _ => guardIndex_eq i out
    have hsync : Performs (p.Ready stored) True (p.syncPlan i.model i.name i.key)
        (modify (p.registerSync i.model i.name i.key)) :=
      Performs.modify (keyless_syncPlan _ _ _) fun out _ => p.registerSync_eq _ _ _ out
    have hrest := (hquery.seq hsync fun _ h => h.after _).ite_bind
    exact (hguard.seq hrest fun _ h => h.after _).congr (by simp)

theorem applyIndex_performs {stored : String → String} {i : Index} (hi : i.model ∈ p.models.keys)
    (hs : (p.dataSources.get? i.model).isSome) :
    Performs (p.Ready stored) (i.name ≠ "") (p.indexPlan stored i) (p.applyIndex i) := by
  have hresolvers : Performs (p.Ready stored) _ _ _ := applyIndexToResolvers_performs hi hs
  unfold applyIndex provisionIndex indexPlan
  cases hsql : p.isSqlModel i.model with
  | true =>
    rw [hsql] at hresolvers
    exact (Performs.pure.seq hresolvers fun _ h => h).congr (by simp)
  | false =>
    rw [hsql] at hresolvers
    have hprovision : Performs (p.Ready stored) (i.name ≠ "") [.changeTable i.model (p.indexChange i)]
        (if i.name.isEmpty then throw .missingIndexName else changeTable i.model (p.indexChange i)) := by
      by_cases hname : i.name = ""
      · rw [if_pos (by simpa using hname)]
        exact (Performs.throw (e := .missingIndexName) trivial).congr (by simp [hname])
      · rw [if_neg (by simpa using hname)]
        exact (changeTable_performs hi hsql _).congr (iff_of_true trivial hname)
    exact (hprovision.seq hresolvers fun _ h => h.after _).congr (by simp)

/-! ## everything -/

theorem addSqlField_performs (f : SqlField) {stored : String → String} :
    Performs (p.Ready stored) (p.sqlFieldDbType? f).isSome (p.sqlFieldPlan f) (p.addSqlField f) := by
  unfold addSqlField sqlFieldPlan
  cases p.sqlFieldDbType? f with
  | none => exact (Performs.throw (e := .sqlWithoutDataSource f.key) trivial).congr (by simp)
  | some dbType =>
    have hsource : Performs (p.Ready stored) True [.ensureSql dbType] (modify (·.ensureSqlDataSource dbType)) :=
      Performs.modify rfl fun _ _ => rfl
    have hadd := Performs.addResolver (P := p.Ready stored) f.key (p.statementResolver f)
    exact (hsource.seq hadd fun _ h => h.after _).congr (by simp)

/-- **The build carries out its plan**, exactly when every index has a name, every field with a statement has a
database, and no root field is asked for twice. -/
theorem build_performs (hp : p.Grounded) {d : Declarations} (hkeys : ∀ k ∈ d.primaryKeys, k.model ∈ p.models.keys)
    (hindexes : ∀ i ∈ d.indexes, i.model ∈ p.models.keys) (stored : String → String) :
    Performs (Output.StoredAs stored)
      ((∀ i ∈ d.indexes, i.name ≠ "") ∧ ∀ f ∈ d.sqlFields, (p.sqlFieldDbType? f).isSome) (p.plan stored d)
      (p.build d) := by
  have hprimary := Performs.forM (P := p.Ready stored) (fun k hk => applyPrimaryKey_performs (hkeys k hk))
    fun _ _ _ h => h.after _
  have hindex := Performs.forM (P := p.Ready stored)
    (fun i hi => applyIndex_performs (hindexes i hi) (hp.sourced _ (hindexes i hi))) fun _ _ _ h => h.after _
  have hfields := Performs.forM (P := p.Ready stored) (fun f (_ : f ∈ d.sqlFields) => p.addSqlField_performs f)
    fun _ _ _ h => h.after _
  -- only the models can start from any output; what they leave is ready, and stays so
  have hall := (addModels_performs hp stored).seq
    ((hprimary.seq hindex fun _ h => h.after _).seq hfields fun _ h => h.after _)
    fun _ h => ready_after_models hp stored h
  exact hall.congr (by simp)

end Project

/-! ## from documents -/

/-- The project of a document. -/
def projectOf (config : Config) (doc : Document) (d : Declarations) : Project :=
  { config, doc, dataSources := config.sourcesOf doc, models := d.models }

/-- The output that a build starts from. -/
def Declarations.start (d : Declarations) : Output := { renames := d.renames }

section Document

variable {doc : Document} {config : Config} {d : Declarations}

theorem sourcesOf_get? {model : String} (h : model ∈ doc.modelNames) :
    (config.sourcesOf doc).get? model = some (config.strategyOf model) := by
  rw [Config.sourcesOf, Config.resolve, OrderedMap.get?_ofList_map, if_pos h]

theorem projectOf_grounded (hd : collect doc config (config.sourcesOf doc) = .ok d) :
    (projectOf config doc d).Grounded := by
  have hmodels := (collect_grounded hd).models
  refine ⟨fun e he => (hmodels e he).1, fun model hmodel => ?_⟩
  obtain ⟨e, he, rfl⟩ := List.mem_map.1 hmodel
  exact Option.isSome_iff_exists.2 ⟨_, sourcesOf_get? (hmodels e he).2⟩

/-- The build of what a document declares. -/
theorem build_document (hd : collect doc config (config.sourcesOf doc) = .ok d) :
    Performs (Output.StoredAs d.renames.storedModel)
      ((∀ i ∈ d.indexes, i.name ≠ "") ∧ ∀ f ∈ d.sqlFields, ((projectOf config doc d).sqlFieldDbType? f).isSome)
      ((projectOf config doc d).plan d.renames.storedModel d) ((projectOf config doc d).build d) :=
  Project.build_performs (projectOf_grounded hd) (collect_grounded hd).primaryKeys (collect_grounded hd).indexes _

/-- A document compiles to what the build leaves. -/
theorem compileDocument_of_collect (hu : firstUnsupported? doc (config.sourcesOf doc) = none)
    (hd : collect doc config (config.sourcesOf doc) = .ok d) :
    compileDocument doc config =
      match outcome ((projectOf config doc d).build d) d.start with
      | (.ok _, output) => .ok output.finish
      | (.error e, _) => .error (.build e) := by
  simp only [compileDocument, hu, hd]
  rfl

theorem collect_of_compileDocument {api : Api} (h : compileDocument doc config = .ok api) :
    firstUnsupported? doc (config.sourcesOf doc) = none ∧ ∃ d, collect doc config (config.sourcesOf doc) = .ok d := by
  unfold compileDocument at h
  cases hu : firstUnsupported? doc (config.sourcesOf doc) with
  | some u => simp [hu] at h
  | none =>
    refine ⟨rfl, ?_⟩
    cases hd : collect doc config (config.sourcesOf doc) with
    | ok d => exact ⟨d, rfl⟩
    | error e =>
      simp only [hu, hd] at h
      cases h

/-- When a document compiles, and to what. -/
theorem compileDocument_eq_ok (hu : firstUnsupported? doc (config.sourcesOf doc) = none)
    (hd : collect doc config (config.sourcesOf doc) = .ok d) {api : Api} :
    compileDocument doc config = .ok api ↔
      (((∀ i ∈ d.indexes, i.name ≠ "") ∧ ∀ f ∈ d.sqlFields, ((projectOf config doc d).sqlFieldDbType? f).isSome) ∧
        d.start.Free ((projectOf config doc d).plan d.renames.storedModel d)) ∧
      api = (d.start.after ((projectOf config doc d).plan d.renames.storedModel d)).finish := by
  have hbuild := build_document hd
  have hstart : d.start.StoredAs d.renames.storedModel := rfl
  rw [compileDocument_of_collect hu hd]
  refine ⟨fun h => ?_, fun h => ?_⟩
  · cases hout : outcome ((projectOf config doc d).build d) d.start with
    | mk r out =>
      rw [hout] at h
      cases r with
      | error e => cases h
      | ok u =>
        obtain ⟨hok, rfl⟩ := hbuild.of_ok hstart hout
        exact ⟨hok, (Except.ok.inj h).symm⟩
  · rw [hbuild.run d.start hstart h.1.1 h.1.2, h.2]

end Document

end ModelApi
