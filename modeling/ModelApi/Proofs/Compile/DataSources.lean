import ModelApi.Proofs.Compile.FieldMaps
import ModelApi.Proofs.Compile.Placement

/-!
# The data sources behind resolvers

A resolver names its data source, and the stack holds the data sources by name. Both come about in different steps: a
model that is kept in a table creates its own data source, and the one that all relational resolvers share is created by
whoever needs it first.

* `Action.creates?`: the data source that an action creates, unless there is one of the name;
* `sources_after`: under each name stands what the first action has put there;
* `plan_creates`: the data sources that a plan creates, in order;
* `source_of_resolver`: the data source that a resolver names;
* `compiled_references`: no resolver of an API refers to nothing, and the stack holds just what is referred to.
-/

namespace ModelApi

open Schema (Document queryType)

/-- The data source of the table of a model. -/
def DataSource.ofModel (model : String) : DataSource := ⟨tableId model, model, .table (tableId model)⟩

/-- The data source that all relational resolvers share. -/
def DataSource.ofDatabase (dbType : DbType) : DataSource := ⟨sqlDataSource, sqlStack, .function sqlFunction dbType⟩

theorem tableId_ne_sqlDataSource (model : String) : tableId model ≠ sqlDataSource := by
  intro h
  have hchars : "Table".toList.reverse ++ model.toList.reverse = sqlDataSource.toList.reverse := by
    rw [← h, tableId, String.toList_append, List.reverse_append]
  simp [sqlDataSource] at hchars

/-! ## data sources under their names -/

/-- The data source that an action creates, unless there is one of the name. -/
def Action.creates? : Action → Option DataSource
  | .provision model _ _ => some (.ofModel model)
  | .ensureSql dbType => some (.ofDatabase dbType)
  | _ => none

section

variable {sources : OrderedMap String DataSource} (source : DataSource)

/-- Putting a data source under its name, where nothing else stands. -/
theorem get?_insert_source (h : ∀ old, sources.get? source.name = some old → old = source) (name : String) :
    (sources.insert source.name source).get? name =
      (sources.get? name).or ((some source).filter (·.name == name)) := by
  rw [OrderedMap.get?_insert, Option.filter_some]
  by_cases hname : name = source.name
  · rw [if_pos hname, if_pos (beq_iff_eq.2 hname.symm), hname]
    cases hold : sources.get? source.name with
    | none => rfl
    | some old => rw [h old hold, Option.some_or]
  · have hother : ¬ (source.name == name) = true := fun heq => hname (beq_iff_eq.1 heq).symm
    rw [if_neg hname, if_neg hother, Option.or_none]

/-- A data source of the name makes another one pointless. -/
theorem or_filter_of_contains (h : sources.contains source.name = true) (name : String) :
    (sources.get? name).or ((some source).filter (·.name == name)) = sources.get? name := by
  rw [Option.filter_some]
  by_cases hname : source.name = name
  · obtain ⟨old, hold⟩ := Option.isSome_iff_exists.1 h
    rw [hname] at hold
    rw [hold, Option.some_or]
  · rw [if_neg (by simpa using hname), Option.or_none]

end

namespace Output

/-- Nothing but the data source of its table goes by the name of a table. -/
def Reserved (out : Output) : Prop :=
  ∀ model source, out.stack.dataSources.get? (tableId model) = some source → source = .ofModel model

theorem sources_perform {out : Output} (h : out.Reserved) (a : Action) (name : String) :
    (out.perform a).stack.dataSources.get? name =
      (out.stack.dataSources.get? name).or (a.creates?.filter (·.name == name)) := by
  cases a with
  | provision model stored provisioning => exact get?_insert_source (.ofModel model) (h model) name
  | ensureSql dbType =>
    rw [perform, ensureSqlDataSource]
    split
    next hcontains => exact (or_filter_of_contains (.ofDatabase dbType) hcontains name).symm
    next hcontains =>
      refine get?_insert_source (.ofDatabase dbType) (fun old hold => absurd ?_ hcontains) name
      exact Option.isSome_iff_exists.2 ⟨old, hold⟩
  | _ => exact Option.or_none.symm

theorem Reserved.perform {out : Output} (h : out.Reserved) (a : Action) : (out.perform a).Reserved := by
  intro model source hsource
  rw [sources_perform h, Option.or_eq_some_iff] at hsource
  rcases hsource with hold | ⟨-, hnew⟩
  · exact h model source hold
  · obtain ⟨hcreates, hname⟩ := Option.filter_eq_some_iff.1 hnew
    rw [beq_iff_eq] at hname
    cases a with
    | provision other stored provisioning =>
      cases hcreates
      rw [tableId_injective hname]
    | ensureSql dbType =>
      cases hcreates
      exact absurd hname.symm (tableId_ne_sqlDataSource model)
    | _ => cases hcreates

/-- Under each name stands the first data source of that name. -/
theorem sources_after (plan : List Action) {out : Output} (h : out.Reserved) (name : String) :
    (out.after plan).stack.dataSources.get? name =
      (out.stack.dataSources.get? name).or ((plan.filterMap Action.creates?).find? (·.name == name)) := by
  induction plan generalizing out with
  | nil => exact Option.or_none.symm
  | cons a plan ih =>
    rw [after_cons, ih (h.perform a), sources_perform h, Option.or_assoc]
    cases hcreates : a.creates? with
    | none => rw [List.filterMap_cons_none hcreates, Option.filter_none, Option.none_or]
    | some source =>
      rw [List.filterMap_cons_some hcreates, List.find?_cons, Option.filter_some]
      cases source.name == name <;> rfl

end Output

namespace Project

variable {p : Project} {stored : String → String}

/-! ## the data sources of a plan -/

theorem primaryKeyPlan_creates (k : PrimaryKey) : (p.primaryKeyPlan k).filterMap Action.creates? = [] := by
  refine List.filterMap_eq_nil_iff.2 fun a ha => ?_
  rcases mem_primaryKeyPlan.1 ha with ha | ⟨-, rfl | ha⟩
  · obtain ⟨-, -, -, -, rfl⟩ := mem_linesPlan.1 ha
    rfl
  · rfl
  · obtain ⟨-, -, -, rfl⟩ := mem_syncPlan.1 ha
    rfl

theorem indexPlan_creates (i : Index) : (p.indexPlan stored i).filterMap Action.creates? = [] := by
  refine List.filterMap_eq_nil_iff.2 fun a ha => ?_
  rcases mem_indexPlan.1 ha with ha | ⟨-, rfl | ha | ha⟩
  · obtain ⟨-, -, rfl | ⟨-, rfl⟩⟩ := mem_queryPlan.1 ha <;> rfl
  · rfl
  · obtain ⟨-, -, -, -, rfl⟩ := mem_linesPlan.1 ha
    rfl
  · obtain ⟨-, -, -, rfl⟩ := mem_syncPlan.1 ha
    rfl

theorem sqlFieldPlan_creates (f : SqlField) :
    (p.sqlFieldPlan f).filterMap Action.creates? = ((p.sqlFieldDbType? f).map DataSource.ofDatabase).toList := by
  unfold sqlFieldPlan
  cases p.sqlFieldDbType? f <;> rfl

/-- The data source that a model needs. -/
def modelSource? (p : Project) (model : String) : Option DataSource :=
  (p.dataSources.get? model).map fun s => if s.isSql then .ofDatabase s.dbType else .ofModel model

/-- A model creates its data source with its first action, and no other. -/
theorem modelPlan_creates (m : Model) :
    (p.modelPlan stored m).filterMap Action.creates? = (p.modelSource? m.name).toList := by
  have hitems : ((p.operations m).flatMap (p.itemOperationPlan m)).filterMap Action.creates? = [] := by
    simp [itemOperationPlan, Action.creates?, List.filterMap_flatMap, List.filterMap_map, Function.comp_def]
  have hcalls : ((p.operations m).flatMap (p.sqlOperationPlan stored m)).filterMap Action.creates? = [] := by
    simp [sqlOperationPlan, Action.creates?, List.filterMap_flatMap]
  unfold modelPlan modelSource?
  cases p.dataSources.get? m.name with
  | none => rfl
  | some s =>
    cases s with
    | dynamodb provisioning => exact congrArg (DataSource.ofModel m.name :: ·) hitems
    | mysql source => exact congrArg (DataSource.ofDatabase .mysql :: ·) hcalls
    | postgres source => exact congrArg (DataSource.ofDatabase .postgres :: ·) hcalls

/-- Models create data sources, and fields with statements ask for the shared one. -/
theorem plan_creates (d : Declarations) :
    (p.plan stored d).filterMap Action.creates? = p.models.values.filterMap (fun m => p.modelSource? m.name) ++
      d.sqlFields.filterMap fun f => (p.sqlFieldDbType? f).map DataSource.ofDatabase := by
  have hprimary : d.primaryKeys.flatMap (fun k => (p.primaryKeyPlan k).filterMap Action.creates?) = [] :=
    List.flatMap_eq_nil_iff.2 fun k _ => primaryKeyPlan_creates k
  have hindexes : d.indexes.flatMap (fun i => (p.indexPlan stored i).filterMap Action.creates?) = [] :=
    List.flatMap_eq_nil_iff.2 fun i _ => indexPlan_creates i
  simp only [plan, List.filterMap_append, List.filterMap_flatMap, modelPlan_creates, hprimary, hindexes,
    sqlFieldPlan_creates, ← List.filterMap_eq_flatMap_toList, List.nil_append]

end Project

/-! ## the data sources of a document -/

/-- The data source that a model needs under a configuration. -/
def Config.sourceOf (config : Config) (model : String) : DataSource :=
  if (config.strategyOf model).isSql then .ofDatabase (config.strategyOf model).dbType else .ofModel model

/-- The database that the shared data source is for: that of the first relational model in the order of the `@model`
directives, and without such a model that of the first field with a statement. -/
def Declarations.sharedDbType? (doc : Document) (config : Config) (d : Declarations) : Option DbType :=
  ((doc.modelOwners.map fun model => (config.strategyOf model).dbType).find? (·.isSql)).or
    (d.sqlFields.head?.bind (projectOf config doc d).sqlFieldDbType?)

section Document

variable {doc : Document} {config : Config} {d : Declarations} {api : Api}

theorem mem_modelOwners (hd : collect doc config (config.sourcesOf doc) = .ok d) {model : String} :
    model ∈ doc.modelOwners ↔ model ∈ doc.modelNames := by
  rw [← collect_modelOwners hd]
  exact collect_models hd model

theorem modelSources_eq (hd : collect doc config (config.sourcesOf doc) = .ok d) :
    d.models.values.filterMap (fun m => (projectOf config doc d).modelSource? m.name) =
      doc.modelOwners.map config.sourceOf := by
  have hnames : d.models.values.map (·.name) = doc.modelOwners :=
    (projectOf_grounded hd).names.trans (collect_modelOwners hd)
  have hsource : ∀ model ∈ doc.modelOwners,
      (projectOf config doc d).modelSource? model = some (config.sourceOf model) := by
    intro model hmodel
    have hget : (projectOf config doc d).dataSources.get? model = some (config.strategyOf model) :=
      sourcesOf_get? ((mem_modelOwners hd).1 hmodel)
    rw [Project.modelSource?, hget]
    rfl
  rw [← hnames, List.map_map, ← List.filterMap_eq_map]
  refine List.filterMap_congr fun m hm => ?_
  rw [hsource m.name (hnames ▸ List.mem_map_of_mem hm)]
  rfl

/-- Under each name stands the first data source of the name that a model or a field with a statement asks for. -/
theorem sources_of_compiled (h : compileDocument doc config = .ok api)
    (hd : collect doc config (config.sourcesOf doc) = .ok d) (name : String) :
    api.stack.dataSources.get? name = (doc.modelOwners.map config.sourceOf ++ d.sqlFields.filterMap fun f =>
      ((projectOf config doc d).sqlFieldDbType? f).map DataSource.ofDatabase).find? (·.name == name) := by
  obtain ⟨hu, -⟩ := collect_of_compileDocument h
  obtain ⟨-, rfl⟩ := (compileDocument_eq_ok hu hd).1 h
  have hstart : d.start.Reserved := fun _ _ hnone => nomatch hnone
  have hafter := Output.sources_after ((projectOf config doc d).plan d.renames.storedModel d) hstart name
  rw [Project.plan_creates, show (projectOf config doc d).models = d.models from rfl, modelSources_eq hd] at hafter
  exact hafter.trans (Option.none_or)

theorem find?_ofDatabase (dbTypes : List DbType) :
    (dbTypes.map DataSource.ofDatabase).find? (·.name == sqlDataSource) = dbTypes.head?.map DataSource.ofDatabase := by
  cases dbTypes <;> rfl

/-- The first relational model decides. -/
theorem find?_sourceOf (config : Config) (models : List String) :
    (models.map config.sourceOf).find? (·.name == sqlDataSource) =
      ((models.map fun model => (config.strategyOf model).dbType).find? (·.isSql)).map DataSource.ofDatabase := by
  induction models with
  | nil => rfl
  | cons model models ih =>
    rw [List.map_cons, List.map_cons, List.find?_cons, List.find?_cons]
    cases hsql : (config.strategyOf model).isSql with
    | true =>
      have hsource : config.sourceOf model = .ofDatabase (config.strategyOf model).dbType := by
        rw [Config.sourceOf, if_pos hsql]
      rw [show (config.strategyOf model).dbType.isSql = true from hsql, hsource]
      rfl
    | false =>
      have hname : ((config.sourceOf model).name == sqlDataSource) = false := by
        rw [Config.sourceOf, hsql]
        simpa [DataSource.ofModel] using tableId_ne_sqlDataSource model
      rw [show (config.strategyOf model).dbType.isSql = false from hsql, hname]
      exact ih

/-- The shared data source, if there is one. -/
theorem sharedSource_of_compiled (h : compileDocument doc config = .ok api)
    (hd : collect doc config (config.sourcesOf doc) = .ok d) :
    api.stack.dataSources.get? sqlDataSource = (d.sharedDbType? doc config).map DataSource.ofDatabase := by
  obtain ⟨hu, -⟩ := collect_of_compileDocument h
  obtain ⟨⟨⟨-, hdbs⟩, -⟩, -⟩ := (compileDocument_eq_ok hu hd).1 h
  -- every field has a database, so the first one that is found is that of the first field
  have hfirst : (d.sqlFields.filterMap (projectOf config doc d).sqlFieldDbType?).head? =
      d.sqlFields.head?.bind (projectOf config doc d).sqlFieldDbType? := by
    cases hfields : d.sqlFields with
    | nil => rfl
    | cons f fields =>
      obtain ⟨dbType, hdb⟩ := Option.isSome_iff_exists.1 (hdbs f (hfields ▸ List.mem_cons_self))
      rw [List.filterMap_cons_some hdb, List.head?_cons, List.head?_cons, Option.bind_some, hdb]
  rw [sources_of_compiled h hd, List.find?_append, find?_sourceOf, ← List.map_filterMap, find?_ofDatabase, hfirst,
    ← Option.map_or]
  rfl

/-- The data sources of tables. -/
theorem tableSource_of_compiled (h : compileDocument doc config = .ok api)
    (hd : collect doc config (config.sourcesOf doc) = .ok d) {name : String} (hname : name ≠ sqlDataSource)
    {source : DataSource} :
    api.stack.dataSources.get? name = some source ↔
      ∃ model ∈ doc.modelOwners, (config.strategyOf model).isSql = false ∧ name = tableId model ∧
        source = .ofModel model := by
  have hfields : (d.sqlFields.filterMap fun f => ((projectOf config doc d).sqlFieldDbType? f).map
      DataSource.ofDatabase).find? (·.name == name) = none := by
    rw [List.find?_eq_none]
    intro source hsource
    obtain ⟨f, -, hf⟩ := List.mem_filterMap.1 hsource
    obtain ⟨dbType, -, rfl⟩ := Option.map_eq_some_iff.1 hf
    simpa [DataSource.ofDatabase] using Ne.symm hname
  rw [sources_of_compiled h hd, List.find?_append, hfields, Option.or_none]
  have hfound : ∀ {source}, (doc.modelOwners.map config.sourceOf).find? (·.name == name) = some source →
      ∃ model ∈ doc.modelOwners, (config.strategyOf model).isSql = false ∧ name = tableId model ∧
        source = .ofModel model := by
    intro source hfind
    obtain ⟨model, hmodel, rfl⟩ := List.mem_map.1 (List.mem_of_find?_eq_some hfind)
    have heq : (config.sourceOf model).name = name := by simpa using List.find?_some hfind
    unfold Config.sourceOf at heq ⊢
    cases hsql : (config.strategyOf model).isSql with
    | true =>
      rw [hsql] at heq
      exact absurd heq.symm hname
    | false =>
      rw [hsql] at heq
      exact ⟨model, hmodel, hsql, heq.symm, rfl⟩
  refine ⟨hfound, ?_⟩
  rintro ⟨model, hmodel, hsql, rfl, rfl⟩
  have hsome : ((doc.modelOwners.map config.sourceOf).find? (·.name == tableId model)).isSome := by
    rw [List.find?_isSome]
    refine ⟨_, List.mem_map_of_mem hmodel, ?_⟩
    rw [Config.sourceOf, hsql]
    exact beq_self_eq_true _
  obtain ⟨source, hfind⟩ := Option.isSome_iff_exists.1 hsome
  obtain ⟨other, -, -, heq, rfl⟩ := hfound hfind
  rw [hfind, tableId_injective heq]

/-! ## the data sources of resolvers -/

theorem Resolver.dataSource_addRequests (r : Resolver) (slot : Slot) (texts : List String) :
    (r.addRequests slot texts).dataSource = r.dataSource := by
  obtain ⟨slots, hslots⟩ := r.eq_addRequests slot texts
  rw [hslots]

theorem Resolver.request_addRequests (r : Resolver) (slot : Slot) (texts : List String) :
    (r.addRequests slot texts).request = r.request := by
  obtain ⟨slots, hslots⟩ := r.eq_addRequests slot texts
  rw [hslots]

/-- A resolver serves a model and names the data source of the model, or has a statement and names the shared one. -/
theorem source_of_resolver (h : compileDocument doc config = .ok api)
    (hd : collect doc config (config.sourcesOf doc) = .ok d) {key : ResolverKey} {r : Resolver}
    (hr : api.registry.get? key = some r) :
    (∃ model ∈ doc.modelOwners, (model, key) ∈ d.served config.usesSync ∧
      r.dataSource = some (config.sourceOf model).name) ∨
    ∃ f ∈ d.sqlFields, key = f.key ∧ r.dataSource = some sqlDataSource := by
  obtain ⟨resolver, hregister, hcore⟩ := resolver_of_compiled h hd hr
  have hsource : r.dataSource = resolver.dataSource :=
    (congrArg Resolver.dataSource hcore).trans (Resolver.dataSource_addRequests _ _ _)
  have hnamed : ∀ model ∈ doc.modelOwners, (projectOf config doc d).sourceOf model = (config.sourceOf model).name := by
    intro model hmodel
    rw [Project.sourceOf, isSqlModel_projectOf ((mem_modelOwners hd).1 hmodel), Config.sourceOf]
    cases (config.strategyOf model).isSql <;> rfl
  have hgrounded := collect_grounded hd
  rcases Project.register_cases hregister with ⟨m, hm, o, ho, hkey, rfl⟩ | ⟨i, hi, field, hfield, rfl, rfl⟩ |
    ⟨f, hf, hkey, rfl⟩
  · have hmodel : m.name ∈ doc.modelOwners := by
      rw [← collect_modelOwners hd]
      exact (projectOf_grounded hd).mem_keys hm
    have hserved : (m.name, key) ∈ d.served config.usesSync :=
      Project.mem_served_of_operation (p := projectOf config doc d) hm ho hkey
    refine .inl ⟨m.name, hmodel, hserved, ?_⟩
    rw [hsource, ← hnamed m.name hmodel]
    exact Resolver.dataSource_addRequests _ .init _
  · have hmodel : i.model ∈ doc.modelOwners := by
      rw [← collect_modelOwners hd]
      exact hgrounded.indexes i hi
    refine .inl ⟨i.model, hmodel, Declarations.mem_served_of_query hi hfield, ?_⟩
    rw [hsource, ← hnamed i.model hmodel]
    rfl
  · exact .inr ⟨f, hf, hkey, hsource⟩

theorem resolver_of_rootField (h : compileDocument doc config = .ok api)
    (hd : collect doc config (config.sourcesOf doc) = .ok d) {key : ResolverKey}
    (hkey : key ∈ d.rootFields config.usesSync) : ∃ r, api.registry.get? key = some r := by
  rw [← keys_of_compiled h hd, ← OrderedMap.contains_iff] at hkey
  exact Option.isSome_iff_exists.1 hkey

theorem source_of_served (h : compileDocument doc config = .ok api)
    (hd : collect doc config (config.sourcesOf doc) = .ok d) {model : String} {key : ResolverKey}
    (hserved : (model, key) ∈ d.served config.usesSync) :
    model ∈ doc.modelOwners ∧
      ∃ r, api.registry.get? key = some r ∧ r.dataSource = some (config.sourceOf model).name := by
  have hn := rootFields_nodup h hd
  have hkey : key ∈ d.rootFields config.usesSync := by
    rw [Declarations.rootFields_eq]
    exact List.mem_append_left _ (List.mem_map_of_mem hserved)
  obtain ⟨r, hr⟩ := resolver_of_rootField h hd hkey
  rcases source_of_resolver h hd hr with ⟨other, hother, hserves, hsource⟩ | ⟨f, hf, rfl, -⟩
  · obtain rfl := Declarations.served_unique hn hserved hserves
    exact ⟨hother, r, hr, hsource⟩
  · exact absurd rfl (Declarations.served_ne_statement hn hserved hf)

theorem source_of_statement (h : compileDocument doc config = .ok api)
    (hd : collect doc config (config.sourcesOf doc) = .ok d) {f : SqlField} (hf : f ∈ d.sqlFields) :
    ∃ r, api.registry.get? f.key = some r ∧ r.dataSource = some sqlDataSource := by
  have hkey : f.key ∈ d.rootFields config.usesSync := by
    rw [Declarations.rootFields_eq]
    exact List.mem_append_right _ (List.mem_map_of_mem hf)
  obtain ⟨r, hr⟩ := resolver_of_rootField h hd hkey
  rcases source_of_resolver h hd hr with ⟨model, -, hserved, -⟩ | ⟨g, -, -, hsource⟩
  · exact absurd rfl (Declarations.served_ne_statement (rootFields_nodup h hd) hserved hf)
  · exact ⟨r, hr, hsource⟩

/-! ## references -/

/-- What the parts of an API refer to is there, and nothing else is. -/
structure Api.Connected (doc : Document) (config : Config) (d : Declarations) (api : Api) : Prop where
  /-- Every resolver names a data source of the stack. -/
  resolvers : ∀ key r, api.registry.get? key = some r →
    ∃ name, r.dataSource = some name ∧ name ∈ api.stack.dataSources.keys
  /-- Operations of a model and queries on its indexes read from its table, or from the shared data source. -/
  models : ∀ model key, (model, key) ∈ d.served config.usesSync → ∃ r, api.registry.get? key = some r ∧
    if (config.strategyOf model).isSql then r.dataSource = some sqlDataSource
    else r.dataSource = some (tableId model) ∧ api.stack.dataSources.get? (tableId model) = some (.ofModel model) ∧
      ∃ t, api.stack.tables.get? (tableId model) = some t ∧ t.id = tableId model
  statements : ∀ f ∈ d.sqlFields, ∃ r, api.registry.get? f.key = some r ∧ r.dataSource = some sqlDataSource
  /-- There is one table for each model that is not relational. -/
  tables : api.stack.tables.keys = (doc.modelOwners.filter fun model => !(config.strategyOf model).isSql).map tableId
  /-- There is one data source for each table, and the shared one. -/
  dataSources : ∀ name source, api.stack.dataSources.get? name = some source ↔
    (∃ model ∈ doc.modelOwners, (config.strategyOf model).isSql = false ∧ name = tableId model ∧
      source = .ofModel model) ∨
    ∃ dbType, d.sharedDbType? doc config = some dbType ∧ name = sqlDataSource ∧ source = .ofDatabase dbType
  /-- The shared data source is there when something needs it. -/
  shared : sqlDataSource ∈ api.stack.dataSources.keys ↔
    (∃ model ∈ doc.modelOwners, (config.strategyOf model).isSql = true) ∨ d.sqlFields ≠ []

theorem sources_iff (h : compileDocument doc config = .ok api)
    (hd : collect doc config (config.sourcesOf doc) = .ok d) (name : String) (source : DataSource) :
    api.stack.dataSources.get? name = some source ↔
      (∃ model ∈ doc.modelOwners, (config.strategyOf model).isSql = false ∧ name = tableId model ∧
        source = .ofModel model) ∨
      ∃ dbType, d.sharedDbType? doc config = some dbType ∧ name = sqlDataSource ∧ source = .ofDatabase dbType := by
  by_cases hname : name = sqlDataSource
  · have hnone : ¬ ∃ model ∈ doc.modelOwners, (config.strategyOf model).isSql = false ∧ name = tableId model ∧
        source = .ofModel model := by
      rintro ⟨model, -, -, heq, -⟩
      exact tableId_ne_sqlDataSource model (heq.symm.trans hname)
    rw [or_iff_right hnone, hname, sharedSource_of_compiled h hd, Option.map_eq_some_iff]
    constructor
    · rintro ⟨dbType, hdb, rfl⟩
      exact ⟨dbType, hdb, rfl, rfl⟩
    · rintro ⟨dbType, hdb, -, rfl⟩
      exact ⟨dbType, hdb, rfl⟩
  · have hnone : ¬ ∃ dbType, d.sharedDbType? doc config = some dbType ∧ name = sqlDataSource ∧
        source = .ofDatabase dbType := by
      rintro ⟨-, -, heq, -⟩
      exact hname heq
    rw [or_iff_left hnone]
    exact tableSource_of_compiled h hd hname

/-- The shared data source is needed by relational models and by fields with statements. -/
theorem sharedDbType?_isSome (h : compileDocument doc config = .ok api)
    (hd : collect doc config (config.sourcesOf doc) = .ok d) :
    (d.sharedDbType? doc config).isSome ↔
      (∃ model ∈ doc.modelOwners, (config.strategyOf model).isSql = true) ∨ d.sqlFields ≠ [] := by
  obtain ⟨hu, -⟩ := collect_of_compileDocument h
  obtain ⟨⟨⟨-, hdbs⟩, -⟩, -⟩ := (compileDocument_eq_ok hu hd).1 h
  have hmodels : ((doc.modelOwners.map fun model => (config.strategyOf model).dbType).find? (·.isSql)).isSome ↔
      ∃ model ∈ doc.modelOwners, (config.strategyOf model).isSql = true := by
    rw [List.find?_isSome]
    constructor
    · rintro ⟨dbType, hmem, hsql⟩
      obtain ⟨model, hmodel, rfl⟩ := List.mem_map.1 hmem
      exact ⟨model, hmodel, hsql⟩
    · rintro ⟨model, hmodel, hsql⟩
      exact ⟨_, List.mem_map_of_mem hmodel, hsql⟩
  have hfields : (d.sqlFields.head?.bind (projectOf config doc d).sqlFieldDbType?).isSome ↔ d.sqlFields ≠ [] := by
    cases hall : d.sqlFields with
    | nil => simp
    | cons f fields => simpa using hdbs f (hall ▸ List.mem_cons_self)
  rw [Declarations.sharedDbType?, Option.isSome_or, Bool.or_eq_true, hmodels, hfields]

theorem tables_of_compiled (h : compileDocument doc config = .ok api)
    (hd : collect doc config (config.sourcesOf doc) = .ok d) :
    api.stack.tables.keys = (doc.modelOwners.filter fun model => !(config.strategyOf model).isSql).map tableId := by
  obtain ⟨hu, -⟩ := collect_of_compileDocument h
  obtain ⟨-, rfl⟩ := (compileDocument_eq_ok hu hd).1 h
  have hp := projectOf_grounded hd
  have htables : (d.start.after ((projectOf config doc d).plan d.renames.storedModel d)).stack.tables =
      (projectOf config doc d).tables d.renames.storedModel d := Project.tables_after_plan _ d rfl
  have hids : ((projectOf config doc d).tableModels.map fun e => tableId e.1) =
      ((projectOf config doc d).tableModels.map (·.1)).map tableId := by
    rw [List.map_map]
    rfl
  rw [Output.finish, htables, Project.tables_keys hp, hids, Project.tableModels_names hp,
    show (projectOf config doc d).models = d.models from rfl, collect_modelOwners hd]
  refine congrArg (List.map tableId) (List.filter_congr fun model hmodel => ?_)
  have hget : (projectOf config doc d).dataSources.get? model = some (config.strategyOf model) :=
    sourcesOf_get? ((mem_modelOwners hd).1 hmodel)
  rw [hget, Option.bind_some]
  cases config.strategyOf model <;> rfl

/-- **References.** In the outcome of every compilation, each resolver names a data source that exists: resolvers of a
model in a table that of the table, which is there as well, and all others the shared one. There is one table and one
data source for each model in a table. The shared data source is there just when a model is relational or a field has a
statement, and it is for the database of the first such model or else of the first such field. -/
theorem compiled_references (h : compileDocument doc config = .ok api) :
    doc.modelOwners.Nodup ∧ ∃ d, collect doc config (config.sourcesOf doc) = .ok d ∧ api.Connected doc config d := by
  obtain ⟨hu, d, hd⟩ := collect_of_compileDocument h
  have hshared := sharedSource_of_compiled h hd
  have hneeded := sharedDbType?_isSome h hd
  have hkeys : sqlDataSource ∈ api.stack.dataSources.keys ↔ (d.sharedDbType? doc config).isSome := by
    rw [← OrderedMap.contains_iff, OrderedMap.contains, hshared, Option.isSome_map]
  have howned : ∀ model ∈ doc.modelOwners, (config.strategyOf model).isSql = false →
      api.stack.dataSources.get? (tableId model) = some (.ofModel model) := fun model hmodel hsql =>
    (sources_iff h hd _ _).2 (.inl ⟨model, hmodel, hsql, rfl, rfl⟩)
  have hmodels : ∀ model ∈ doc.modelOwners, (config.sourceOf model).name ∈ api.stack.dataSources.keys := by
    intro model hmodel
    rw [Config.sourceOf]
    cases hsql : (config.strategyOf model).isSql with
    | true => exact hkeys.2 (hneeded.2 (.inl ⟨model, hmodel, hsql⟩))
    | false => exact OrderedMap.mem_keys_of_get? _ (howned model hmodel hsql)
  refine ⟨collect_modelOwners hd ▸ d.models.nodup, d, hd, ?_, ?_, fun f hf => source_of_statement h hd hf,
    tables_of_compiled h hd, sources_iff h hd, hkeys.trans hneeded⟩
  · intro key r hr
    rcases source_of_resolver h hd hr with ⟨model, hmodel, -, hsource⟩ | ⟨f, hf, -, hsource⟩
    · exact ⟨_, hsource, hmodels model hmodel⟩
    · exact ⟨_, hsource, hkeys.2 (hneeded.2 (.inr (List.ne_nil_of_mem hf)))⟩
  · intro model key hserved
    obtain ⟨hmodel, r, hr, hsource⟩ := source_of_served h hd hserved
    refine ⟨r, hr, ?_⟩
    rw [Config.sourceOf] at hsource
    cases hsql : (config.strategyOf model).isSql with
    | true =>
      rw [hsql] at hsource
      exact hsource
    | false =>
      rw [hsql] at hsource
      obtain ⟨provisioning, hprov⟩ := Strategy.provisioned hsql
      have htable := table_of_model h hd ((mem_modelOwners hd).1 hmodel) hprov
      exact ⟨hsource, howned model hmodel hsql, _, htable, (Table.foldl_apply_id _ _).1⟩

end Document

/-- Buyers and sellers in two databases, and offers in a table. Buyers are defined first, but an extension makes them
the last model. -/
def market : Document := ⟨[
  .type ⟨⟨1, 1⟩, "Buyer", false, .object [⟨"id", [], .named "ID" false, []⟩], []⟩,
  .type ⟨⟨3, 1⟩, "Seller", false, .object [⟨"id", [], .named "ID" false, []⟩], [⟨"model", ⟨3, 13⟩, []⟩]⟩,
  .type ⟨⟨5, 1⟩, "Offer", false, .object [
    ⟨"id", [], .named "ID" false, []⟩,
    ⟨"day", [], .named "Int" false,
      [⟨"index", ⟨7, 13⟩, [("name", .str "byDay"), ("queryField", .str "offersByDay")]⟩]⟩],
    [⟨"model", ⟨5, 12⟩, [("queries", .object [("get", .str "offer")]), ("mutations", .null)]⟩]⟩,
  .type ⟨⟨9, 1⟩, "Buyer", true, .object [],
    [⟨"model", ⟨9, 19⟩, [("queries", .null), ("mutations", .object [("create", .str "join")])]⟩]⟩,
  .type ⟨⟨10, 1⟩, "Query", false, .object [
    ⟨"countBuyers", [], .named "Int" true, [⟨"sql", ⟨11, 20⟩, [("statement", .str "SELECT COUNT(*) FROM Buyer")]⟩]⟩],
    []⟩]⟩

def marketConfig : Config :=
  let database : SqlSource := ⟨"db", ⟨"host", "port", "user", "password", "name"⟩, none, .empty, none⟩
  { dataSources := .ofList [("Buyer", .mysql database), ("Seller", .postgres database)] }

theorem market_references : ∃ api d, compileDocument market marketConfig = .ok api ∧
    collect market marketConfig (marketConfig.sourcesOf market) = .ok d ∧
    market.modelNames = ["Buyer", "Seller", "Offer"] ∧ market.modelOwners = ["Seller", "Offer", "Buyer"] ∧
    api.Connected market marketConfig d ∧
    api.stack.dataSources.entries =
      [("SQLLambdaDataSource", .ofDatabase .postgres), ("OfferTable", .ofModel "Offer")] ∧
    (api.registry.entries.map fun e => (e.1.fieldName, e.2.dataSource)) =
      [("getSeller", some "SQLLambdaDataSource"), ("listSellers", some "SQLLambdaDataSource"),
        ("createSeller", some "SQLLambdaDataSource"), ("updateSeller", some "SQLLambdaDataSource"),
        ("deleteSeller", some "SQLLambdaDataSource"), ("offer", some "OfferTable"),
        ("join", some "SQLLambdaDataSource"), ("offersByDay", some "OfferTable"),
        ("countBuyers", some "SQLLambdaDataSource")] := by
  have hparts : (compileDocument market marketConfig).toOption.map (fun api =>
      (api.stack.dataSources.entries, api.registry.entries.map fun e => (e.1.fieldName, e.2.dataSource))) =
      some ([("SQLLambdaDataSource", .ofDatabase .postgres), ("OfferTable", .ofModel "Offer")],
        [("getSeller", some "SQLLambdaDataSource"), ("listSellers", some "SQLLambdaDataSource"),
          ("createSeller", some "SQLLambdaDataSource"), ("updateSeller", some "SQLLambdaDataSource"),
          ("deleteSeller", some "SQLLambdaDataSource"), ("offer", some "OfferTable"),
          ("join", some "SQLLambdaDataSource"), ("offersByDay", some "OfferTable"),
          ("countBuyers", some "SQLLambdaDataSource")]) := by decide +kernel
  obtain ⟨api, hapi, hparts⟩ := Option.map_eq_some_iff.1 hparts
  have h : compileDocument market marketConfig = .ok api := ok_of_toOption hapi
  obtain ⟨-, d, hd, hconnected⟩ := compiled_references h
  rw [Prod.mk.injEq] at hparts
  exact ⟨api, d, h, hd, by decide +kernel, by decide +kernel, hconnected, hparts.1, hparts.2⟩

end ModelApi
