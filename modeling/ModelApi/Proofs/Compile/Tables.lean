import ModelApi.Proofs.Compile.Build
import ModelApi.Proofs.Table.Consistency

/-!
# The tables of a compilation

Of all that a plan does, only two things bear on tables: models create them, and keys and then indexes change them.

* `tables_plan`: the tables of a compilation as a formula;
* `tables_get?`: the history of the table of a model, its keys first and then its indexes;
* `compiled_table_consistent`: every table of a compilation is consistent and mirrored by its resource.
-/

namespace ModelApi

open Schema (Document)

/-- An action that leaves all tables as they are. -/
def Action.quiet : Action → Bool
  | .provision _ _ _ | .changeTable _ _ => false
  | _ => true

theorem foldl_onTables_of_quiet {plan : List Action} (h : ∀ a ∈ plan, a.quiet = true)
    (tables : OrderedMap String Table) : plan.foldl Action.onTables tables = tables := by
  induction plan with
  | nil => rfl
  | cons a plan ih =>
    have ha : a.onTables tables = tables := by
      cases a with
      | provision | changeTable => cases h _ List.mem_cons_self
      | _ => rfl
    rw [List.foldl_cons, ha]
    exact ih fun b hb => h b (List.mem_cons_of_mem _ hb)

/-- Changes tables of models, one after the other. -/
def changeTables (tables : OrderedMap String Table) (changes : List (String × TableChange)) : OrderedMap String Table :=
  changes.foldl (fun tables c => tables.update (tableId c.1) (·.apply c.2)) tables

/-- A table goes through the changes that are for its model. -/
theorem changeTables_get? (changes : List (String × TableChange)) (tables : OrderedMap String Table) (model : String) :
    (changeTables tables changes).get? (tableId model) =
      (tables.get? (tableId model)).map (((changes.filter (·.1 == model)).map (·.2)).foldl Table.apply) := by
  induction changes generalizing tables with
  | nil => simp [changeTables]
  | cons c changes ih =>
    have hstep : changeTables tables (c :: changes) =
        changeTables (tables.update (tableId c.1) (·.apply c.2)) changes := rfl
    rw [hstep, ih, OrderedMap.get?_update]
    by_cases hc : c.1 = model
    · simp [hc, Function.comp_def]
    · have hid : ¬ tableId model = tableId c.1 := fun e => hc (tableId_injective e).symm
      simp [hid, hc]

theorem changeTables_keys (changes : List (String × TableChange)) (tables : OrderedMap String Table) :
    (changeTables tables changes).keys = tables.keys := by
  induction changes generalizing tables with
  | nil => rfl
  | cons c changes ih => exact (ih _).trans (OrderedMap.keys_update _ _ _)

namespace Project

variable (p : Project)

/-- The models that are kept in tables, and how these are provisioned. -/
def tableModels : List (String × Provisioning) :=
  p.models.values.filterMap fun m => ((p.dataSources.get? m.name).bind (·.provisioning?)).map (m.name, ·)

/-- The changes of tables: all keys, then all indexes. Relational models have no tables. -/
def tableChanges (d : Declarations) : List (String × TableChange) :=
  (d.primaryKeys.filter fun k => !p.isSqlModel k.model).map
      (fun k => (k.model, .replaceKey k.key.elements (k.key.attributes p.doc))) ++
    (d.indexes.filter fun i => !p.isSqlModel i.model).map fun i => (i.model, p.indexChange i)

variable {p}

theorem quiet_linesPlan {model : String} {entries : List (Operation × List String)} {a : Action}
    (ha : a ∈ p.linesPlan model entries) : a.quiet = true := by
  obtain ⟨-, -, -, -, rfl⟩ := mem_linesPlan.1 ha
  rfl

theorem quiet_syncPlan {model name : String} {k : Key} {a : Action} (ha : a ∈ p.syncPlan model name k) :
    a.quiet = true := by
  obtain ⟨-, -, -, rfl⟩ := mem_syncPlan.1 ha
  rfl

theorem quiet_queryPlan {stored : String → String} {i : Index} {a : Action} (ha : a ∈ p.queryPlan stored i) :
    a.quiet = true := by
  obtain ⟨-, -, rfl | ⟨-, rfl⟩⟩ := mem_queryPlan.1 ha <;> rfl

theorem tables_modelPlan (stored : String → String) (m : Model) (tables : OrderedMap String Table) :
    (p.modelPlan stored m).foldl Action.onTables tables =
      match ((p.dataSources.get? m.name).bind (·.provisioning?)).map (m.name, ·) with
      | some e => tables.insert (tableId e.1) (Table.new e.1 (stored e.1) e.2)
      | none => tables := by
  unfold modelPlan
  cases p.dataSources.get? m.name with
  | none => rfl
  | some s =>
    cases hprov : s.provisioning? with
    | some provisioning =>
      simp only [hprov, Option.bind_some, Option.map_some, List.foldl_cons]
      refine foldl_onTables_of_quiet (fun a ha => ?_) _
      simp only [itemOperationPlan, List.mem_flatMap, List.mem_map] at ha
      obtain ⟨-, -, -, -, rfl⟩ := ha
      rfl
    | none =>
      simp only [hprov, Option.bind_some, Option.map_none, List.foldl_cons]
      refine foldl_onTables_of_quiet (fun a ha => ?_) _
      simp only [sqlOperationPlan, List.mem_flatMap, List.mem_cons, List.not_mem_nil, or_false] at ha
      obtain ⟨-, -, -, -, rfl | rfl⟩ := ha <;> rfl

theorem tables_primaryKeyPlan (k : PrimaryKey) (tables : OrderedMap String Table) :
    (p.primaryKeyPlan k).foldl Action.onTables tables =
      if !p.isSqlModel k.model then
        tables.update (tableId k.model) (·.apply (.replaceKey k.key.elements (k.key.attributes p.doc)))
      else tables := by
  unfold primaryKeyPlan
  cases p.isSqlModel k.model with
  | true => exact foldl_onTables_of_quiet (fun a ha => quiet_linesPlan ha) tables
  | false =>
    rw [if_neg Bool.false_ne_true, List.foldl_cons]
    refine foldl_onTables_of_quiet (fun a ha => ?_) _
    exact (List.mem_append.1 ha).elim quiet_linesPlan quiet_syncPlan

theorem tables_indexPlan (stored : String → String) (i : Index) (tables : OrderedMap String Table) :
    (p.indexPlan stored i).foldl Action.onTables tables =
      if !p.isSqlModel i.model then tables.update (tableId i.model) (·.apply (p.indexChange i)) else tables := by
  unfold indexPlan
  cases p.isSqlModel i.model with
  | true => exact foldl_onTables_of_quiet (fun a ha => quiet_queryPlan ha) tables
  | false =>
    rw [if_neg Bool.false_ne_true, List.foldl_cons]
    refine foldl_onTables_of_quiet (fun a ha => ?_) _
    rcases List.mem_append.1 ha with ha | ha
    · exact quiet_linesPlan ha
    · exact (List.mem_append.1 ha).elim quiet_queryPlan quiet_syncPlan

theorem tables_sqlFieldPlan (f : SqlField) (tables : OrderedMap String Table) :
    (p.sqlFieldPlan f).foldl Action.onTables tables = tables := by
  refine foldl_onTables_of_quiet (fun a ha => ?_) tables
  obtain ⟨-, -, rfl⟩ | rfl := mem_sqlFieldPlan.1 ha <;> rfl

/-- Models create tables; keys and then indexes change them; nothing else bears on them. -/
theorem tables_plan (stored : String → String) (d : Declarations) (tables : OrderedMap String Table) :
    (p.plan stored d).foldl Action.onTables tables =
      changeTables (p.tableModels.foldl (fun tables e => tables.insert (tableId e.1)
        (Table.new e.1 (stored e.1) e.2)) tables) (p.tableChanges d) := by
  have hfields : ∀ tables : OrderedMap String Table,
      d.sqlFields.foldl (fun tables f => (p.sqlFieldPlan f).foldl Action.onTables tables) tables = tables := by
    intro tables
    induction d.sqlFields with
    | nil => rfl
    | cons f fields ih => rw [List.foldl_cons, tables_sqlFieldPlan, ih]
  have hmodels : p.models.values.foldl (fun tables m => (p.modelPlan stored m).foldl Action.onTables tables) tables =
      p.tableModels.foldl (fun tables e => tables.insert (tableId e.1) (Table.new e.1 (stored e.1) e.2)) tables := by
    rw [tableModels, List.foldl_filterMap]
    congr 1
    funext tables m
    rw [tables_modelPlan]
    -- both sides match on the same option, but through different auxiliary functions
    cases ((p.dataSources.get? m.name).bind (·.provisioning?)).map (m.name, ·) <;> rfl
  simp only [plan, List.foldl_append, List.foldl_flatMap, hfields, hmodels, tables_primaryKeyPlan, tables_indexPlan,
    changeTables, tableChanges, List.foldl_map, List.foldl_filter]

/-- The tables of a build that starts without any. -/
def tables (p : Project) (stored : String → String) (d : Declarations) : OrderedMap String Table :=
  changeTables (.ofList (p.tableModels.map fun e => (tableId e.1, Table.new e.1 (stored e.1) e.2))) (p.tableChanges d)

theorem tables_after_plan (stored : String → String) (d : Declarations) {out : Output}
    (hout : out.stack.tables = .empty) : (out.after (p.plan stored d)).stack.tables = p.tables stored d := by
  rw [Output.tables_after, tables_plan, hout, tables, OrderedMap.ofList, List.foldl_map]

/-! ## the history of a table -/

theorem mem_tableModels {e : String × Provisioning} (he : e ∈ p.tableModels) :
    (∃ m ∈ p.models.values, m.name = e.1) ∧ ∃ s, p.dataSources.get? e.1 = some s ∧ s.provisioning? = some e.2 := by
  obtain ⟨m, hm, h⟩ := List.mem_filterMap.1 he
  obtain ⟨provisioning, hprov, rfl⟩ := Option.map_eq_some_iff.1 h
  exact ⟨⟨m, hm, rfl⟩, Option.bind_eq_some_iff.1 hprov⟩

theorem Grounded.names (hp : p.Grounded) : p.models.values.map (·.name) = p.models.keys := by
  rw [OrderedMap.values, List.map_map]
  exact List.map_congr_left hp.named

/-- The models in tables, in the order of all models. -/
theorem tableModels_names (hp : p.Grounded) :
    p.tableModels.map (·.1) =
      p.models.keys.filter fun model => ((p.dataSources.get? model).bind (·.provisioning?)).isSome := by
  rw [← hp.names, tableModels]
  induction p.models.values with
  | nil => rfl
  | cons m models ih =>
    rw [List.filterMap_cons, List.map_cons, List.filter_cons, ← ih]
    cases (p.dataSources.get? m.name).bind (·.provisioning?) <;> rfl

/-- Models have distinct names, so each is listed once. -/
theorem nodup_tableModels (hp : p.Grounded) : (p.tableModels.map (·.1)).Nodup := by
  rw [tableModels_names hp]
  exact p.models.nodup.sublist List.filter_sublist

/-- Each model in a table gets one, in order. -/
theorem entries_created (hp : p.Grounded) (stored : String → String) :
    (OrderedMap.ofList (p.tableModels.map fun e => (tableId e.1, Table.new e.1 (stored e.1) e.2))).entries =
      p.tableModels.map fun e => (tableId e.1, Table.new e.1 (stored e.1) e.2) := by
  refine OrderedMap.entries_ofList ?_
  have hids : (p.tableModels.map fun e => (tableId e.1, Table.new e.1 (stored e.1) e.2)).map Prod.fst =
      (p.tableModels.map (·.1)).map tableId := by simp
  rw [hids]
  exact List.Pairwise.map tableId (fun _ _ hne he => hne (tableId_injective he)) (nodup_tableModels hp)

theorem tables_keys (hp : p.Grounded) (stored : String → String) (d : Declarations) :
    (p.tables stored d).keys = p.tableModels.map fun e => tableId e.1 := by
  rw [tables, changeTables_keys, OrderedMap.keys, entries_created hp stored, List.map_map]
  rfl

/-- Of all changes, those of one model in a table: its keys, then its indexes. -/
theorem tableChanges_filter (d : Declarations) {model : String} (hsql : p.isSqlModel model = false) :
    ((p.tableChanges d).filter (·.1 == model)).map (·.2) =
      Table.keyChanges p.doc ((d.primaryKeys.filter (·.model == model)).map (·.key)) ++
        (d.indexes.filter (·.model == model)).map p.indexChange := by
  -- among the changes of this one model, the check for relational models always passes
  have hkept : ∀ other : String, (other == model && !p.isSqlModel other) = (other == model) := by
    intro other
    by_cases h : other = model
    · simp [h, hsql]
    · simp [h]
  simp only [tableChanges, Table.keyChanges, List.filter_append, List.map_append, List.filter_map, List.map_map,
    List.filter_filter, Function.comp_def, hkept]

/-- The table of a model goes through its keys and then its indexes. -/
theorem tables_get? (hp : p.Grounded) (stored : String → String) (d : Declarations) {e : String × Provisioning}
    (he : e ∈ p.tableModels) :
    (p.tables stored d).get? (tableId e.1) = some
      ((Table.keyChanges p.doc ((d.primaryKeys.filter (·.model == e.1)).map (·.key)) ++
        (d.indexes.filter (·.model == e.1)).map p.indexChange).foldl Table.apply (Table.new e.1 (stored e.1) e.2)) := by
  obtain ⟨-, s, hs, hprov⟩ := mem_tableModels he
  have hsql : p.isSqlModel e.1 = false := by rw [isSqlModel_eq hs, hprov]; rfl
  have hstart := entries_created hp stored
  rw [tables, changeTables_get?, tableChanges_filter d hsql]
  have hmem : (tableId e.1, Table.new e.1 (stored e.1) e.2) ∈ (OrderedMap.ofList
      (p.tableModels.map fun e => (tableId e.1, Table.new e.1 (stored e.1) e.2))).entries := by
    rw [hstart]
    exact List.mem_map_of_mem he
  rw [OrderedMap.get?_of_mem _ hmem]
  rfl

/-- There are no other tables. -/
theorem mem_tables_values (hp : p.Grounded) {stored : String → String} {d : Declarations} {t : Table}
    (ht : t ∈ (p.tables stored d).values) :
    ∃ e ∈ p.tableModels, t =
      (Table.keyChanges p.doc ((d.primaryKeys.filter (·.model == e.1)).map (·.key)) ++
        (d.indexes.filter (·.model == e.1)).map p.indexChange).foldl Table.apply (Table.new e.1 (stored e.1) e.2) := by
  obtain ⟨⟨id, u⟩, hentry, rfl⟩ := List.mem_map.1 ht
  have hid : id ∈ (p.tables stored d).keys := List.mem_map_of_mem hentry
  rw [tables_keys hp] at hid
  obtain ⟨e, he, rfl⟩ := List.mem_map.1 hid
  have hget := OrderedMap.get?_of_mem _ hentry
  rw [tables_get? hp stored d he] at hget
  exact ⟨e, he, (Option.some.inj hget).symm⟩

/-- An index only ever adds to its table. -/
theorem addsIndex_indexChange (i : Index) : (p.indexChange i).addsIndex = true := by
  unfold indexChange
  cases p.isLocal i <;> rfl

end Project

/-- Changes of a table leave its identifier and how it is provisioned. -/
theorem Table.foldl_apply_id (changes : List TableChange) (t : Table) :
    (changes.foldl Table.apply t).id = t.id ∧ (changes.foldl Table.apply t).provisioning = t.provisioning := by
  refine foldl_apply_preserves (P := fun u => u.id = t.id ∧ u.provisioning = t.provisioning) (fun c _ u hu => ?_)
    ⟨rfl, rfl⟩
  cases c <;> exact hu

/-- **The tables of a compilation are consistent.** A table belongs to a model that is not relational. It defines just
the attributes that its keys and indexes use, and its resource, with all overrides in place, states just its managed
view, as long as positions of global indexes have 64 bits. -/
theorem compiled_table_consistent {doc : Document} {config : Config} {api : Api}
    (h : compileDocument doc config = .ok api) {t : Table} (ht : t ∈ api.stack.tables.values) :
    (∃ model ∈ doc.modelNames, t.id = tableId model ∧ (config.strategyOf model).provisioning? = some t.provisioning) ∧
      t.Consistent ∧ (t.globalIndexes.length ≤ UInt64.size → t.Mirrors) := by
  obtain ⟨hu, d, hd⟩ := collect_of_compileDocument h
  obtain ⟨-, rfl⟩ := (compileDocument_eq_ok hu hd).1 h
  have hp := projectOf_grounded hd
  have htables : (d.start.after ((projectOf config doc d).plan d.renames.storedModel d)).stack.tables =
      (projectOf config doc d).tables d.renames.storedModel d := Project.tables_after_plan _ d rfl
  rw [Output.finish, htables] at ht
  obtain ⟨e, he, rfl⟩ := Project.mem_tables_values hp ht
  refine ⟨?_, ?_⟩
  · obtain ⟨⟨m, hm, hname⟩, s, hs, hprov⟩ := Project.mem_tableModels he
    have hmodel : e.1 ∈ doc.modelNames := by
      have hkey := hp.mem_keys hm
      rw [hname] at hkey
      obtain ⟨entry, hentry, heq⟩ := List.mem_map.1 hkey
      rw [← heq]
      exact ((collect_grounded hd).models entry hentry).2
    have hstrategy : config.strategyOf e.1 = s := Option.some.inj ((sourcesOf_get? hmodel).symm.trans hs)
    obtain ⟨hid, hkept⟩ := Table.foldl_apply_id (Table.keyChanges doc ((d.primaryKeys.filter (·.model == e.1)).map
      (·.key)) ++ (d.indexes.filter (·.model == e.1)).map (projectOf config doc d).indexChange)
      (Table.new e.1 (d.renames.storedModel e.1) e.2)
    refine ⟨e.1, hmodel, hid, ?_⟩
    rw [hstrategy, hprov]
    exact congrArg some hkept.symm
  · refine Table.keyed_then_indexed e.1 _ e.2 doc _ _ fun c hc => ?_
    obtain ⟨i, -, rfl⟩ := List.mem_map.1 hc
    exact Project.addsIndex_indexChange i

/-- Orders by customer, with an index that can share the partition key and one that cannot. -/
def shop : Document := ⟨[
  .type ⟨⟨1, 1⟩, "Order", false, .object [
    ⟨"customer", [], .named "ID" false,
      [⟨"primaryKey", ⟨2, 17⟩, [("sortKeyFields", .list [.str "day", .str "number"])]⟩,
        ⟨"index", ⟨2, 60⟩, [("name", .str "byTotal"), ("sortKeyFields", .list [.str "total"])]⟩]⟩,
    ⟨"day", [], .named "String" false, []⟩,
    ⟨"number", [], .named "Int" false,
      [⟨"index", ⟨4, 16⟩, [("name", .str "byNumber"), ("sortKeyFields", .list [.str "day"])]⟩]⟩,
    ⟨"total", [], .named "Float" true, []⟩], [⟨"model", ⟨1, 12⟩, []⟩]⟩]⟩

/-- Tables are changed by overrides, and indexes are local where they can be. -/
def shopConfig : Config :=
  { parameters := { secondaryKeyAsGsi := false }, defaultDataSource := some (.dynamodb .custom) }

theorem shop_table_consistent : ∃ api t, compileDocument shop shopConfig = .ok api ∧ t ∈ api.stack.tables.values ∧
    t.Consistent ∧ t.Mirrors ∧
    t.raw.effective.get? "attributeDefinitions" = some (.arr [
      .obj [("attributeName", .str "customer"), ("attributeType", .str "S")],
      .obj [("attributeName", .str "day#number"), ("attributeType", .str "S")],
      .obj [("attributeName", .str "total"), ("attributeType", .str "N")],
      .obj [("attributeName", .str "number"), ("attributeType", .str "N")],
      .obj [("attributeName", .str "day"), ("attributeType", .str "S")]]) ∧
    t.raw.effective.get? "localSecondaryIndexes" = some (.arr [.obj [("indexName", .str "byTotal"),
      ("keySchema", .arr [.obj [("attributeName", .str "customer"), ("keyType", .str "HASH")],
        .obj [("attributeName", .str "total"), ("keyType", .str "RANGE")]]),
      ("projection", .obj [("projectionType", .str "ALL")])]]) := by
  have hviews : ((compileDocument shop shopConfig).toOption.map fun api => api.stack.tables.values.map fun t =>
      (t.attributes, t.partitionKey.name, t.localIndexes, t.globalIndexes.length)) =
      some [([⟨"customer", .s⟩, ⟨"day#number", .s⟩, ⟨"total", .n⟩, ⟨"number", .n⟩, ⟨"day", .s⟩], "customer",
        [⟨"byTotal", some ⟨"total", .n⟩⟩], 1)] := by
    decide +kernel
  obtain ⟨api, h, hviews⟩ := Option.map_eq_some_iff.1 hviews
  replace h := ok_of_toOption h
  obtain ⟨t, ht, hview⟩ := List.mem_map.1 (hviews ▸ List.mem_singleton_self _)
  simp only [Prod.mk.injEq] at hview
  obtain ⟨hattributes, hpartition, hlocal, hglobal⟩ := hview
  obtain ⟨-, hconsistent, hmirrors⟩ := compiled_table_consistent h ht
  have hstated : t.Mirrors := hmirrors (by rw [hglobal]; decide)
  refine ⟨api, t, h, ht, hconsistent, hstated, ?_, ?_⟩
  · rw [hstated, Table.stated, hattributes]
    rfl
  · rw [hstated, Table.stated, hlocal, hpartition]
    rfl

end ModelApi
