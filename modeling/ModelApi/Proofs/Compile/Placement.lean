import ModelApi.Proofs.Compile.KeyTypes
import ModelApi.Proofs.Directive.Run

/-!
# Where indexes go

An index is local when local indexes are allowed and it has the partition key of its table, and global otherwise. Which
partition key that is, an index knows from the directives of its model, while the table has it from its key. Both are
the same, so indexes can be sorted by looking at the finished table.

* `indexes_foldl`: the indexes of a table after a run of changes that add some;
* `primaryPartition_eq`: an index knows the partition field of the key of its model;
* `compiled_index_placement`: the local and the global indexes of every table.
-/

namespace ModelApi

open Schema (Document)

/-! ## tables that get indexes -/

namespace Table

theorem indexes_apply (t : Table) {c : TableChange} (hc : c.addsIndex = true) :
    (t.apply c).localIndexes = t.localIndexes ++ c.local?.toList ∧
      (t.apply c).globalIndexes = t.globalIndexes ++ c.global?.toList ∧ (t.apply c).partitionKey = t.partitionKey := by
  cases c with
  | replaceKey keySchema attributes => cases hc
  | addGlobal index => exact ⟨(List.append_nil _).symm, rfl, rfl⟩
  | addLocal index => exact ⟨rfl, (List.append_nil _).symm, rfl⟩

/-- Indexes queue up in the order in which they are added, and leave the partition key alone. -/
theorem indexes_foldl {changes : List TableChange} (hc : ∀ c ∈ changes, c.addsIndex = true) (t : Table) :
    (changes.foldl Table.apply t).localIndexes = t.localIndexes ++ changes.filterMap TableChange.local? ∧
      (changes.foldl Table.apply t).globalIndexes = t.globalIndexes ++ changes.filterMap TableChange.global? ∧
      (changes.foldl Table.apply t).partitionKey = t.partitionKey := by
  induction changes generalizing t with
  | nil => simp
  | cons c changes ih =>
    obtain ⟨hlocal, hglobal, hkey⟩ := t.indexes_apply (hc c List.mem_cons_self)
    obtain ⟨hlocals, hglobals, hkeys⟩ := ih (fun b hb => hc b (List.mem_cons_of_mem _ hb)) (t.apply c)
    rw [List.foldl_cons, hlocals, hglobals, hkeys, hlocal, hglobal, hkey]
    refine ⟨?_, ?_, rfl⟩
    · cases h : c.local? <;> simp [h]
    · cases h : c.global? <;> simp [h]

/-- A table that has its key but no index yet. -/
theorem keyed_new (model name : String) (provisioning : Provisioning) (doc : Document) (k : Option PrimaryKey) :
    let t := (keyChanges doc (k.toList.map (·.key))).foldl Table.apply (Table.new model name provisioning)
    t.localIndexes = [] ∧ t.globalIndexes = [] ∧ t.partitionKey.name = (k.map (·.key.partition.name)).getD "id" := by
  cases k with
  | none => exact ⟨rfl, rfl, rfl⟩
  | some k =>
    refine ⟨rfl, rfl, ?_⟩
    show partitionOf k.key.elements = k.key.partition.name
    simp [partitionOf, Key.elements]

end Table

/-! ## indexes and the key of their model -/

/-- The name of a sort key: that of its only field, or those of several fields joined together. -/
def sortKeyName : List String → Option String
  | [] => none
  | fields => some (Text.joinWith "#" fields)

theorem sortAttribute?_eq (k : Key) : k.sortAttribute? = sortKeyName k.sortNames := by
  unfold Key.sortAttribute? Key.sortNames compositeName
  match k.sort with
  | [] => rfl
  | [single] => rfl
  | first :: second :: rest => rfl

/-- An index knows the partition field of the key of its model. -/
theorem primaryPartition_eq {doc : Document} {config : Config} {sources : DataSources} {d : Declarations}
    (hd : collect doc config sources = .ok d) {i : Index} (hi : i ∈ d.indexes) :
    i.primaryPartition = (d.primaryKey? i.model).map (·.key.partition) := by
  rw [((collect_indexesSound hd).sound i hi).primary]
  cases hk : d.primaryKey? i.model with
  | some k =>
    have hmodel : k.model = i.model := by simpa using List.find?_some hk
    exact (primaryPartition?_eq_some_iff hd _ _).2 ⟨k, List.mem_of_find?_eq_some hk, hmodel, rfl⟩
  | none =>
    cases hfound : primaryPartition? doc i.model with
    | none => rfl
    | some f =>
      obtain ⟨k, hmem, hmodel, -⟩ := (primaryPartition?_eq_some_iff hd _ _).1 hfound
      exact absurd (List.find?_eq_none.1 hk k hmem) (by simp [hmodel])

/-! ## placement -/

/-- Whether an index can share the partition key of a table. -/
def Index.shares (allGlobal : Bool) (t : Table) (i : Index) : Bool :=
  !allGlobal && i.key.partition.name == t.partitionKey.name

/-- The table has just these indexes, in their order: those that can share its partition key as local ones, and all
others as global ones with partition keys of their own. No two have the same name. -/
structure Table.Places (allGlobal : Bool) (indexes : List Index) (t : Table) : Prop where
  locals : t.localIndexes.map (fun l => (l.name, l.sort.map (·.name))) =
    (indexes.filter (Index.shares allGlobal t)).map fun i => (i.name, sortKeyName i.key.sortNames)
  globals : t.globalIndexes.map (fun g => (g.name, g.partition.name, g.sort.map (·.name))) =
    (indexes.filter fun i => !i.shares allGlobal t).map fun i =>
      (i.name, i.key.partition.name, sortKeyName i.key.sortNames)
  distinct : (t.localIndexes.map (·.name) ++ t.globalIndexes.map (·.name)).Nodup

theorem indexChange_local? (p : Project) (i : Index) :
    (p.indexChange i).local?.map (fun l => (l.name, l.sort.map (·.name))) =
      if p.isLocal i then some (i.name, sortKeyName i.key.sortNames) else none := by
  rw [← sortAttribute?_eq]
  unfold Project.indexChange
  cases p.isLocal i with
  | true => simp [TableChange.local?, Function.comp_def]
  | false => rfl

theorem indexChange_global? (p : Project) (i : Index) :
    (p.indexChange i).global?.map (fun g => (g.name, g.partition.name, g.sort.map (·.name))) =
      if p.isLocal i then none else some (i.name, i.key.partition.name, sortKeyName i.key.sortNames) := by
  rw [← sortAttribute?_eq]
  unfold Project.indexChange
  cases p.isLocal i with
  | true => rfl
  | false => simp [TableChange.global?, Function.comp_def]

/-- Taking some of a list and the rest of it takes each name once. -/
theorem nodup_split {α : Type} {f : α → String} {l : List α} (q : α → Bool) (h : (l.map f).Nodup) :
    ((l.filter q).map f ++ (l.filter fun a => !q a).map f).Nodup := by
  rw [← List.map_append]
  exact ((List.filter_append_perm q l).map f).nodup_iff.2 h

section Document

variable {doc : Document} {config : Config} {d : Declarations} {api : Api} {model : String}

theorem indexNames_nodup (hd : collect doc config (config.sourcesOf doc) = .ok d)
    (hnamed : ∀ i ∈ d.indexes, i.name ≠ "") (model : String) : ((d.indexesOf model).map (·.name)).Nodup := by
  have hpairs := (collect_indexesSound hd).distinct.sublist (List.filter_sublist (p := fun i => i.model == model))
  rw [List.Nodup, List.pairwise_map]
  refine hpairs.imp_of_mem fun {i j} hi hj hij => ?_
  obtain ⟨hmem, hi⟩ := List.mem_filter.1 hi
  obtain ⟨-, hj⟩ := List.mem_filter.1 hj
  exact hij ((beq_iff_eq.1 hi).trans (beq_iff_eq.1 hj).symm) (hnamed i hmem)

/-- What the table of a model has after its key and its indexes. -/
theorem places_of_model (hd : collect doc config (config.sourcesOf doc) = .ok d)
    (hnamed : ∀ i ∈ d.indexes, i.name ≠ "") (name : String) (provisioning : Provisioning) :
    ((Table.keyChanges doc ((d.primaryKey? model).toList.map (·.key)) ++
      (d.indexesOf model).map (projectOf config doc d).indexChange).foldl Table.apply
        (Table.new model name provisioning)).Places config.parameters.secondaryKeyAsGsi (d.indexesOf model) := by
  obtain ⟨hnolocal, hnoglobal, hkey⟩ := Table.keyed_new model name provisioning doc (d.primaryKey? model)
  have hadds : ∀ c ∈ (d.indexesOf model).map (projectOf config doc d).indexChange, c.addsIndex = true := by
    intro c hc
    obtain ⟨i, -, rfl⟩ := List.mem_map.1 hc
    exact Project.addsIndex_indexChange i
  rw [List.foldl_append]
  obtain ⟨hlocal, hglobal, hpartition⟩ := Table.indexes_foldl hadds
    ((Table.keyChanges doc ((d.primaryKey? model).toList.map (·.key))).foldl Table.apply
      (Table.new model name provisioning))
  generalize hend : ((d.indexesOf model).map (projectOf config doc d).indexChange).foldl Table.apply _ = t at *
  rw [hnolocal, List.nil_append, List.filterMap_map] at hlocal
  rw [hnoglobal, List.nil_append, List.filterMap_map] at hglobal
  rw [← hpartition] at hkey
  -- what decides is the same before and after
  have hshares : ∀ i ∈ d.indexesOf model,
      (projectOf config doc d).isLocal i = i.shares config.parameters.secondaryKeyAsGsi t := by
    intro i hi
    obtain ⟨hmem, hmodel⟩ := List.mem_filter.1 hi
    rw [beq_iff_eq] at hmodel
    have hknown : (i.primaryPartition.map (·.name)).getD "id" = t.partitionKey.name := by
      rw [primaryPartition_eq hd hmem, hmodel, hkey, Option.map_map]
      rfl
    rw [Project.isLocal, Index.shares, hknown, Bool.beq_comm]
    rfl
  have hlocals : t.localIndexes.map (fun l => (l.name, l.sort.map (·.name))) =
      ((d.indexesOf model).filter (Index.shares config.parameters.secondaryKeyAsGsi t)).map fun i =>
        (i.name, sortKeyName i.key.sortNames) := by
    rw [hlocal, List.map_filterMap, ← List.filterMap_eq_map, List.filterMap_filter]
    refine List.filterMap_congr fun i hi => ?_
    rw [Function.comp_apply, indexChange_local?, hshares i hi]
    rfl
  have hglobals : t.globalIndexes.map (fun g => (g.name, g.partition.name, g.sort.map (·.name))) =
      ((d.indexesOf model).filter fun i => !i.shares config.parameters.secondaryKeyAsGsi t).map fun i =>
        (i.name, i.key.partition.name, sortKeyName i.key.sortNames) := by
    rw [hglobal, List.map_filterMap, ← List.filterMap_eq_map, List.filterMap_filter]
    refine List.filterMap_congr fun i hi => ?_
    rw [Function.comp_apply, indexChange_global?, hshares i hi]
    cases i.shares config.parameters.secondaryKeyAsGsi t <;> rfl
  refine ⟨hlocals, hglobals, ?_⟩
  have hlocalNames : t.localIndexes.map (·.name) =
      ((d.indexesOf model).filter (Index.shares config.parameters.secondaryKeyAsGsi t)).map (·.name) := by
    simpa [List.map_map, Function.comp_def] using congrArg (List.map Prod.fst) hlocals
  have hglobalNames : t.globalIndexes.map (·.name) =
      ((d.indexesOf model).filter fun i => !i.shares config.parameters.secondaryKeyAsGsi t).map (·.name) := by
    simpa [List.map_map, Function.comp_def] using congrArg (List.map Prod.fst) hglobals
  rw [hlocalNames, hglobalNames]
  exact nodup_split _ (indexNames_nodup hd hnamed model)

theorem Strategy.provisioned {s : Strategy} (h : s.isSql = false) :
    ∃ provisioning, s.provisioning? = some provisioning := by
  cases s with
  | dynamodb provisioning => exact ⟨provisioning, rfl⟩
  | mysql source => cases h
  | postgres source => cases h

/-- Only models that are not relational have tables. -/
theorem model_of_table (h : compileDocument doc config = .ok api)
    (hd : collect doc config (config.sourcesOf doc) = .ok d) {id : String} {t : Table}
    (ht : api.stack.tables.get? id = some t) :
    ∃ model ∈ doc.modelNames, (config.strategyOf model).isSql = false ∧ id = tableId model := by
  obtain ⟨hu, -⟩ := collect_of_compileDocument h
  obtain ⟨-, rfl⟩ := (compileDocument_eq_ok hu hd).1 h
  have hp := projectOf_grounded hd
  have htables : (d.start.after ((projectOf config doc d).plan d.renames.storedModel d)).stack.tables =
      (projectOf config doc d).tables d.renames.storedModel d := Project.tables_after_plan _ d rfl
  have hid := OrderedMap.mem_keys_of_get? _ ht
  rw [Output.finish, htables, Project.tables_keys hp] at hid
  obtain ⟨e, he, rfl⟩ := List.mem_map.1 hid
  obtain ⟨⟨m, hm, hname⟩, s, hs, hprov⟩ := Project.mem_tableModels he
  have hmodel : e.1 ∈ doc.modelNames := by
    rw [← hname]
    exact (collect_models hd _).1 (hp.mem_keys hm)
  have hstrategy : config.strategyOf e.1 = s := Option.some.inj ((sourcesOf_get? hmodel).symm.trans hs)
  refine ⟨e.1, hmodel, ?_, rfl⟩
  rw [hstrategy]
  cases s with
  | dynamodb provisioning => rfl
  | mysql source => cases hprov
  | postgres source => cases hprov

/-- **Where indexes go.** The indexes that a document declares are those of its `@index` directives, in order. The table
of a model has just the indexes of the model: as local ones those that have the partition key of the finished table,
provided that local indexes are allowed, and as global ones all others. Only models that are not relational have tables,
so no index of a relational model is on any. -/
theorem compiled_index_placement (h : compileDocument doc config = .ok api) :
    ∃ d, collect doc config (config.sourcesOf doc) = .ok d ∧
      List.Forall₂ Index.DeclaredBy doc.indexOccurrences d.indexes ∧
      (∀ model ∈ doc.modelNames, (config.strategyOf model).isSql = false →
        ∃ t, api.stack.tables.get? (tableId model) = some t ∧
          t.Places config.parameters.secondaryKeyAsGsi (d.indexesOf model)) ∧
      ∀ id t, api.stack.tables.get? id = some t →
        ∃ model ∈ doc.modelNames, (config.strategyOf model).isSql = false ∧ id = tableId model := by
  obtain ⟨hu, d, hd⟩ := collect_of_compileDocument h
  obtain ⟨⟨⟨hnamed, -⟩, -⟩, -⟩ := (compileDocument_eq_ok hu hd).1 h
  refine ⟨d, hd, collect_indexes hd, fun model hmodel htable => ?_, fun id t ht => model_of_table h hd ht⟩
  obtain ⟨provisioning, hprov⟩ := Strategy.provisioned htable
  exact ⟨_, table_of_model h hd hmodel hprov, places_of_model hd hnamed _ provisioning⟩

end Document

/-- Items by place, with three indexes: one has the partition key of the table, one has two sort fields, and one has
none. The key comes last. Suppliers are in a database. -/
def warehouse : Document := ⟨[
  .type ⟨⟨1, 1⟩, "Item", false, .object [
    ⟨"weight", [], .named "Float" false, [⟨"index", ⟨2, 18⟩, [("sortKeyFields", .list [.str "color", .str "shelf"])]⟩]⟩,
    ⟨"color", [], .named "String" false, [⟨"index", ⟨3, 18⟩, []⟩]⟩,
    ⟨"shelf", [], .named "Int" false, []⟩,
    ⟨"place", [], .named "ID" false,
      [⟨"index", ⟨5, 14⟩, [("name", .str "inPlace"), ("sortKeyFields", .list [.str "weight"])]⟩,
        ⟨"primaryKey", ⟨5, 61⟩, [("sortKeyFields", .list [.str "shelf"])]⟩]⟩], [⟨"model", ⟨1, 11⟩, []⟩]⟩,
  .type ⟨⟨8, 1⟩, "Supplier", false, .object [
    ⟨"id", [], .named "ID" false, []⟩,
    ⟨"town", [], .named "String" false, [⟨"index", ⟨10, 17⟩, [("name", .str "byTown")]⟩]⟩],
    [⟨"model", ⟨8, 15⟩, []⟩]⟩]⟩

/-- Local indexes are allowed. -/
def warehouseConfig : Config :=
  { parameters := { secondaryKeyAsGsi := false }
    dataSources := .ofList
      [("Supplier", .mysql ⟨"db", ⟨"host", "port", "user", "password", "name"⟩, none, .empty, none⟩)] }

theorem warehouse_placement : ∃ api d t, compileDocument warehouse warehouseConfig = .ok api ∧
    collect warehouse warehouseConfig (warehouseConfig.sourcesOf warehouse) = .ok d ∧
    List.Forall₂ Index.DeclaredBy warehouse.indexOccurrences d.indexes ∧
    api.stack.tables.keys = ["ItemTable"] ∧ api.stack.tables.get? (tableId "Item") = some t ∧
    t.Places false (d.indexesOf "Item") ∧
    t.localIndexes.map (fun l => (l.name, l.sort.map (·.name))) = [("inPlace", some "weight")] ∧
    t.globalIndexes.map (fun g => (g.name, g.partition.name, g.sort.map (·.name))) =
      [("byWeightAndColorAndShelf", "weight", some "color#shelf"), ("byColor", "color", none)] := by
  have hkeys : ((compileDocument warehouse warehouseConfig).toOption.map fun api => api.stack.tables.keys) =
      some ["ItemTable"] := by decide +kernel
  obtain ⟨api, hapi, hkeys⟩ := Option.map_eq_some_iff.1 hkeys
  have h : compileDocument warehouse warehouseConfig = .ok api := ok_of_toOption hapi
  obtain ⟨d, hd, hdeclared, hplaces, -⟩ := compiled_index_placement h
  obtain ⟨t, ht, htplaces⟩ := hplaces "Item" (by decide) rfl
  have hindexes : (((compileDocument warehouse warehouseConfig).toOption.bind fun api =>
      api.stack.tables.get? (tableId "Item")).map fun t => t.localIndexes.map fun l => (l.name, l.sort.map (·.name))) =
        some [("inPlace", some "weight")] ∧
      (((compileDocument warehouse warehouseConfig).toOption.bind fun api =>
        api.stack.tables.get? (tableId "Item")).map fun t =>
          t.globalIndexes.map fun g => (g.name, g.partition.name, g.sort.map (·.name))) =
        some [("byWeightAndColorAndShelf", "weight", some "color#shelf"), ("byColor", "color", none)] := by
    decide +kernel
  rw [hapi, Option.bind_some, ht, Option.map_some, Option.map_some, Option.some.injEq, Option.some.injEq] at hindexes
  exact ⟨api, d, t, h, hd, hdeclared, hkeys, ht, htplaces, hindexes.1, hindexes.2⟩

end ModelApi
