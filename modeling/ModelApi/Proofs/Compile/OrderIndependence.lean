import Mathlib.Data.List.Perm.Basic
import ModelApi.Proofs.Compile.FieldMaps
import ModelApi.Proofs.Compile.Placement
import ModelApi.Proofs.Compile.PreAuth
import ModelApi.Proofs.Directive.Locality

/-!
# Independence of the order of types

Types may be defined in any order. Where all models are in tables, a root field has its resolver from what is declared
for one type, and a table has its key and indexes from its own model. Look-ups in the document find the same, wherever
a type stands. So a document that is rearranged gives the same resolvers and tables, listed in another order. The
definition and the extensions of one type have to keep their order, since indexes are laid over resolvers in turn.

* `Project.Resolves`: the resolvers of what is declared;
* `get?_iff_resolves`: an API has these and no others;
* `Declarations.rootFields_perm`: the root fields of declarations that agree on every type;
* `compiles_rearranged`: a document that is rearranged compiles as well;
* `compiled_order_independent`: the same resolvers and tables.
-/

namespace ModelApi

open Schema (Document TypeDef queryType)

variable {key : ResolverKey}

/-! ## lists and maps up to order -/

/-- Lists that agree, in order, on each class of their members have the same members. -/
theorem perm_of_filter_eq {α β : Type} [DecidableEq α] [DecidableEq β] (f : α → β) {l l' : List α}
    (h : ∀ b, l.filter (f · == b) = l'.filter (f · == b)) : l.Perm l' := by
  refine List.perm_iff_count.2 fun a => ?_
  have hcount : ∀ l : List α, (l.filter (f · == f a)).count a = l.count a := fun l => List.count_filter (by simp)
  rw [← hcount, h, hcount]

/-- Maps that find the same under every key have the same entries. -/
theorem OrderedMap.perm_of_get? {κ α : Type} [DecidableEq κ] {m m' : OrderedMap κ α}
    (h : ∀ k, m.get? k = m'.get? k) : m.entries.Perm m'.entries := by
  have hmem : ∀ (n : OrderedMap κ α) (e : κ × α), e ∈ n.entries ↔ n.get? e.1 = some e.2 :=
    fun n e => ⟨n.get?_of_mem, n.mem_of_get?⟩
  refine (List.perm_ext_iff_of_nodup (List.Nodup.of_map _ m.nodup) (List.Nodup.of_map _ m'.nodup)).2 fun e => ?_
  rw [hmem, hmem, h]

/-! ## documents without relational models -/

section Tables

variable {doc : Document} {config : Config} {d : Declarations}
  (htables : ∀ model ∈ doc.modelNames, (config.strategyOf model).isSql = false)
include htables

theorem sourcesOf_isSqlModel (model : String) : (config.sourcesOf doc).isSqlModel model = false :=
  isSqlModel_of_tables (d := {}) htables model

theorem isSql_of_mem_sourcesOf {e : String × Strategy} (he : e ∈ (config.sourcesOf doc).entries) :
    e.2.isSql = false := by
  have hmodel := sourcesOf_isSqlModel htables e.1
  rw [DataSources.isSqlModel, OrderedMap.get?_of_mem _ he] at hmodel
  exact hmodel

theorem firstUnsupported?_of_tables : firstUnsupported? doc (config.sourcesOf doc) = none := by
  have hnone : (config.sourcesOf doc).entries.filter (·.2.isSql) = [] :=
    List.filter_eq_nil_iff.2 fun e he => by simp [isSql_of_mem_sourcesOf htables he]
  simp [firstUnsupported?, DataSources.sqlModels, hnone]

/-- No model lends its database to a statement. -/
theorem sqlFieldDbType?_of_tables (f : SqlField) :
    (projectOf config doc d).sqlFieldDbType? f =
      (((config.customSql? f.typeName f.fieldName).map (·.strategy.dbType)).or
        ((config.defaultDataSource.map (·.dbType)).filter (·.isSql))).filter (·.isSql) := by
  have hfirst : ((config.sourcesOf doc).values.map (·.dbType)).find? (·.isSql) = none := by
    refine List.find?_eq_none.2 fun dbType hdb => ?_
    obtain ⟨s, hs, rfl⟩ := List.mem_map.1 hdb
    obtain ⟨e, he, rfl⟩ := List.mem_map.1 hs
    rw [Bool.not_eq_true]
    exact isSql_of_mem_sourcesOf htables he
  have heq : (projectOf config doc d).sqlFieldDbType? f =
      ((((config.customSql? f.typeName f.fieldName).map (·.strategy.dbType)).or
        ((config.defaultDataSource.map (·.dbType)).filter (·.isSql))).or
          (((config.sourcesOf doc).values.map (·.dbType)).find? (·.isSql))).filter (·.isSql) := rfl
  rw [heq, hfirst, Option.or_none]

/-- The renames of an API reach no resolver. -/
theorem textsFor_of_tables (hd : collect doc config (config.sourcesOf doc) = .ok d) {api : Api}
    (h : compileDocument doc config = .ok api) : api.renames.textsFor key = [] := by
  obtain ⟨⟨-, hfree⟩, rfl⟩ := (compileDocument_eq_ok (firstUnsupported?_of_tables htables) hd).1 h
  let p := projectOf config doc d
  have hunnoted : ∀ model reference, .refer model reference ∈ p.plan d.renames.storedModel d → reference.key ≠ key := by
    intro model reference hrefer
    have hsql : p.isSqlModel model = true := (Project.refer_cases rfl hrefer).2
    rw [isSqlModel_of_tables htables] at hsql
    cases hsql
  exact Project.textsFor_of_unnoted (fieldMaps_of_collect hd) (List.nodup_append.1 hfree).2.1 hunnoted

end Tables

/-! ## the resolvers when all models are in tables -/

/-- The resolver with other templates before authorization. -/
def Resolver.withPreAuth (r : Resolver) (templates : List SlotTemplate) : Resolver :=
  { r with slots := { r.slots with preAuth := templates } }

theorem Registry.get?_of_core {r : Registry} {resolver : Resolver} {templates : List SlotTemplate}
    (hcore : r.core? key = some resolver.core) (hslot : r.preAuth? key = some templates) :
    r.get? key = some (resolver.withPreAuth templates) := by
  obtain ⟨x, hx, hxcore⟩ := Option.map_eq_some_iff.1 hcore
  rw [Registry.preAuth?, hx, Option.map_some, Option.some.injEq] at hslot
  have hsame : x = resolver.withPreAuth templates := Resolver.ext_core hxcore hslot
  rw [hx, hsame]

/-- The resolvers of what is declared, when all models are in tables: operations have the templates of keys and indexes
before authorization, queries on indexes and statements have nothing there. -/
inductive Project.Resolves (p : Project) (d : Declarations) : ResolverKey → Resolver → Prop where
  | operation {m : Model} {o : Operation} {key : ResolverKey} (hm : m ∈ d.models.values) (ho : o ∈ p.operations m)
    (hkey : m.key? o = some key) : p.Resolves d key ((p.modelResolver d.renames.storedModel m o key).withPreAuth
      (p.preAuth (d.primaryKey? m.name) (d.indexesOf m.name) o))
  | query {i : Index} {field : String} (hi : i ∈ d.indexes) (hfield : i.queryField = some field) :
    p.Resolves d ⟨queryType, field⟩ ((p.queryResolver d.renames.storedModel i field).withPreAuth [])
  | statement {f : SqlField} (hf : f ∈ d.sqlFields) : p.Resolves d f.key ((p.statementResolver f).withPreAuth [])

section Compiled

variable {doc : Document} {config : Config} {d : Declarations} {api : Api} (h : compileDocument doc config = .ok api)
  (hd : collect doc config (config.sourcesOf doc) = .ok d)
  (htables : ∀ model ∈ doc.modelNames, (config.strategyOf model).isSql = false)
include h hd htables

/-- A resolver that the plan adds stays as it is, but for the slot before authorization. -/
theorem core_of_register {resolver : Resolver}
    (hmem : .register key resolver ∈ (projectOf config doc d).plan d.renames.storedModel d) :
    api.registry.core? key = some resolver.core := by
  have htexts : api.renames.textsFor key = [] := textsFor_of_tables htables hd h
  obtain ⟨⟨-, hfree⟩, rfl⟩ := (compileDocument_eq_ok (firstUnsupported?_of_tables htables) hd).1 h
  rw [Output.core_of_registered hmem hfree]
  exact congrArg (fun texts => some (resolver.core.addRequests .init texts)) htexts

/-- Queries on indexes and statements have nothing before authorization. -/
theorem get?_of_nobody {resolver : Resolver} (hslot : resolver.slots.preAuth = [])
    (hmem : .register key resolver ∈ (projectOf config doc d).plan d.renames.storedModel d)
    (hkey : key ∈ d.indexes.filterMap (·.queryField.map (ResolverKey.mk queryType)) ++ d.sqlFields.map (·.key)) :
    api.registry.get? key = some (resolver.withPreAuth []) := by
  refine Registry.get?_of_core (core_of_register h hd htables hmem) ?_
  have hn := rootFields_nodup h hd
  obtain ⟨⟨-, hfree⟩, rfl⟩ := (compileDocument_eq_ok (firstUnsupported?_of_tables htables) hd).1 h
  let p := projectOf config doc d
  have howned : p.OwnedBy (fun _ => none) key := by
    refine Project.ownedBy_none (projectOf_grounded hd) fun m hm hroot => ?_
    rw [Declarations.rootFields, List.append_assoc] at hn
    exact (List.nodup_append.1 hn).2.2 key (List.mem_flatMap.2 ⟨m, hm, hroot⟩) key hkey rfl
  exact Project.preAuth_of_nobody howned (isSqlModel_of_tables htables) _ rfl hfree hslot hmem

theorem get?_of_resolves {r : Resolver} (hr : (projectOf config doc d).Resolves d key r) :
    api.registry.get? key = some r := by
  let p := projectOf config doc d
  have hp : p.Grounded := projectOf_grounded hd
  cases hr with
  | @operation m o key hm ho hkey =>
    have hmem := Project.register_of_operation hp d.renames.storedModel d hm ho hkey
    refine Registry.get?_of_core (core_of_register h hd htables hmem) ?_
    have hn := rootFields_nodup h hd
    obtain ⟨⟨-, hfree⟩, rfl⟩ := (compileDocument_eq_ok (firstUnsupported?_of_tables htables) hd).1 h
    exact Project.preAuth_of_operation hp (collect_keysSound hd) rfl (isSqlModel_of_tables htables) hn _ rfl hfree hm ho
      hkey
  | @query i field hi hfield =>
    have hmem : .register ⟨queryType, field⟩ (p.queryResolver d.renames.storedModel i field) ∈
        p.plan d.renames.storedModel d :=
      List.mem_append_right _ (List.mem_append_left _ (List.mem_append_right _
        (List.mem_flatMap.2 ⟨i, hi, Project.register_mem_query _ hfield⟩)))
    exact get?_of_nobody h hd htables rfl hmem
      (List.mem_append_left _ (List.mem_filterMap.2 ⟨i, hi, by rw [hfield]; rfl⟩))
  | @statement f hf =>
    have hmem : .register f.key (p.statementResolver f) ∈ p.plan d.renames.storedModel d :=
      List.mem_append_right _ (List.mem_append_right _
        (List.mem_flatMap.2 ⟨f, hf, List.mem_append_right _ (List.mem_singleton.2 rfl)⟩))
    exact get?_of_nobody h hd htables rfl hmem (List.mem_append_right _ (List.mem_map_of_mem hf))

/-- The resolvers of an API are those of what is declared. -/
theorem get?_iff_resolves {r : Resolver} :
    api.registry.get? key = some r ↔ (projectOf config doc d).Resolves d key r := by
  refine ⟨fun hr => ?_, get?_of_resolves h hd htables⟩
  have hdeclared : ∃ r, (projectOf config doc d).Resolves d key r := by
    obtain ⟨resolver, hmem, -⟩ := resolver_of_compiled h hd hr
    obtain ⟨m, hm, o, ho, hkey, -⟩ | ⟨i, hi, field, hfield, rfl, -⟩ | ⟨f, hf, rfl, -⟩ := Project.register_cases hmem
    · exact ⟨_, .operation hm ho hkey⟩
    · exact ⟨_, .query hi hfield⟩
    · exact ⟨_, .statement hf⟩
  obtain ⟨r', hr'⟩ := hdeclared
  have hsame : some r = some r' := hr.symm.trans (get?_of_resolves h hd htables hr')
  cases hsame
  exact hr'

end Compiled

/-! ## the same declarations for every type -/

namespace Declarations

variable {d d' : Declarations} (h : ∀ type, d.part type = d'.part type)
include h

theorem models_perm : d.models.entries.Perm d'.models.entries :=
  OrderedMap.perm_of_get? fun type => congrArg Part.model (h type)

theorem mem_models {m : Model} (hm : m ∈ d.models.values) : m ∈ d'.models.values :=
  ((models_perm h).map Prod.snd).subset hm

theorem indexes_perm : d.indexes.Perm d'.indexes :=
  perm_of_filter_eq Index.model fun type => congrArg Part.indexes (h type)

theorem sqlFields_perm : d.sqlFields.Perm d'.sqlFields :=
  perm_of_filter_eq SqlField.typeName fun type => congrArg Part.sqlFields (h type)

theorem rootFields_perm (sync : Bool) : (d.rootFields sync).Perm (d'.rootFields sync) := by
  have hmodels : d.models.values.Perm d'.models.values := (models_perm h).map Prod.snd
  exact ((hmodels.flatMap_right _).append ((indexes_perm h).filterMap _)).append ((sqlFields_perm h).map _)

theorem primaryKey?_congr (model : String) : d.primaryKey? model = d'.primaryKey? model := by
  have hfind : ∀ d : Declarations, d.primaryKey? model = (d.part model).primaryKeys.head? :=
    fun d => List.head?_filter.symm
  rw [hfind, hfind, h]

theorem indexesOf_congr (model : String) : d.indexesOf model = d'.indexesOf model := congrArg Part.indexes (h model)

theorem storedModel_congr (model : String) : d.renames.storedModel model = d'.renames.storedModel model := by
  have hstored : d.renames.modelNames.get? model = d'.renames.modelNames.get? model := congrArg Part.stored (h model)
  rw [Renames.storedModel, Renames.storedModel, hstored]

end Declarations

/-! ## rearranged documents -/

section Rearranged

variable {doc doc' : Document} {config : Config} {d d' : Declarations}

section Templates

variable (hdoc : doc.Rearranged doc')
include hdoc

theorem keyQuery_rearranged (k : Key) (listing : Bool) : keyQuery doc k listing = keyQuery doc' k listing := by
  have hconditions : ∀ target, keyConditions doc k target = keyConditions doc' k target := by
    intro target
    simp only [keyConditions, hdoc.attributeType]
  simp only [keyQuery, hconditions]

theorem preAuth_rearranged (k : Option PrimaryKey) (indexes : List Index) (o : Operation) :
    (projectOf config doc d).preAuth k indexes o = (projectOf config doc' d').preAuth k indexes o := by
  have hlines : ∀ k o, (projectOf config doc d).keyTexts k o = (projectOf config doc' d').keyTexts k o := by
    intro k o
    cases o with
    | list => exact congrArg (fun query : Expr => [query.print, _]) (keyQuery_rearranged hdoc k true)
    | _ => rfl
  cases o with
  | sync => rfl
  | _ => simp only [Project.preAuth, hlines]

theorem indexChange_rearranged (i : Index) :
    (projectOf config doc d).indexChange i = (projectOf config doc' d').indexChange i := by
  have hattributes : i.key.attributes (projectOf config doc d).doc = i.key.attributes (projectOf config doc' d').doc :=
    hdoc.attributes i.key
  rw [Project.indexChange, hattributes]
  rfl

theorem keyChanges_rearranged (keys : List Key) : Table.keyChanges doc keys = Table.keyChanges doc' keys := by
  simp only [Table.keyChanges, hdoc.attributes]

end Templates

section Resolvers

variable (hdoc : doc.Rearranged doc') (htables : ∀ model ∈ doc.modelNames, (config.strategyOf model).isSql = false)
  (htables' : ∀ model ∈ doc'.modelNames, (config.strategyOf model).isSql = false)
include hdoc htables htables'

theorem modelResolver_rearranged (stored stored' : String → String) (m : Model) (o : Operation) (key : ResolverKey) :
    (projectOf config doc d).modelResolver stored m o key =
      (projectOf config doc' d').modelResolver stored' m o key := by
  have hid : (doc.field? m.name "id").isSome = (doc'.field? m.name "id").isSome := by
    rw [← Option.isSome_map, hdoc.field?, Option.isSome_map]
  have htemplates : (projectOf config doc d).initialTemplates m o = (projectOf config doc' d').initialTemplates m o :=
    congrArg (fun known => (defaultValuesTemplate m o known).toList ++ _) hid
  have hresolver : ∀ source request, (projectOf config doc d).operationResolver m o source request =
      (projectOf config doc' d').operationResolver m o source request := by
    intro source request
    rw [Project.operationResolver, htemplates]
    rfl
  simp [Project.modelResolver, Project.sourceOf, isSqlModel_of_tables htables, isSqlModel_of_tables htables',
    hresolver]

theorem queryResolver_rearranged (stored stored' : String → String) (i : Index) (field : String) :
    (projectOf config doc d).queryResolver stored i field =
      (projectOf config doc' d').queryResolver stored' i field := by
  have hrequest : indexRequest doc i = indexRequest doc' i := by
    simp only [indexRequest, keyQuery_rearranged hdoc]
  simp only [Project.queryResolver, Project.sourceOf, isSqlModel_of_tables htables, isSqlModel_of_tables htables']
  simp [projectOf, hrequest, Project.gate]

end Resolvers

theorem mem_modelNames_rearranged (hdoc : doc.Rearranged doc') {model : String} (hmodel : model ∈ doc'.modelNames) :
    model ∈ doc.modelNames := by
  have hany : ∀ d : Document, (d.definitionsOf model).any (·.isModelObject) =
      ((d.definitionsOf model).map (·.unplaced)).any (·.isModelObject) := by
    intro d
    simp [List.any_map, Function.comp_def]
  have hdefined := (List.mem_filter.1 hmodel).2
  rw [hany, ← hdoc.order, ← hany] at hdefined
  refine List.mem_filter.2 ⟨mem_distinct.2 ?_, hdefined⟩
  obtain ⟨t, ht, -⟩ := List.any_eq_true.1 hdefined
  obtain ⟨ht, hname⟩ := List.mem_filter.1 ht
  exact List.mem_map.2 ⟨t, ht, by simpa using hname⟩

/-- All models of a rearranged document are in tables, too. -/
theorem tables_rearranged (hdoc : doc.Rearranged doc')
    (htables : ∀ model ∈ doc.modelNames, (config.strategyOf model).isSql = false) :
    ∀ model ∈ doc'.modelNames, (config.strategyOf model).isSql = false :=
  fun model hmodel => htables model (mem_modelNames_rearranged hdoc hmodel)

/-- A rearranged document declares the same for every type, and compiles as well. -/
theorem compiles_rearranged (hdoc : doc.Rearranged doc')
    (htables : ∀ model ∈ doc.modelNames, (config.strategyOf model).isSql = false) {api : Api}
    (h : compileDocument doc config = .ok api) :
    ∃ d d' api', collect doc config (config.sourcesOf doc) = .ok d ∧
      collect doc' config (config.sourcesOf doc') = .ok d' ∧ (∀ type, d.part type = d'.part type) ∧
      compileDocument doc' config = .ok api' := by
  have htables' := tables_rearranged hdoc htables
  have hu := firstUnsupported?_of_tables htables
  have hu' := firstUnsupported?_of_tables htables'
  have hsources : (config.sourcesOf doc).isSqlModel = (config.sourcesOf doc').isSqlModel := by
    funext model
    rw [sourcesOf_isSqlModel htables, sourcesOf_isSqlModel htables']
  obtain ⟨-, d, hd⟩ := collect_of_compileDocument h
  obtain ⟨d', hd', hparts⟩ := collect_rearranged hdoc hsources hd
  obtain ⟨⟨⟨hnames, hdatabases⟩, hfree⟩, -⟩ := (compileDocument_eq_ok hu hd).1 h
  refine ⟨d, d', _, hd, hd', hparts, (compileDocument_eq_ok hu' hd').2 ⟨⟨⟨?_, ?_⟩, ?_⟩, rfl⟩⟩
  · exact fun i hi => hnames i ((Declarations.indexes_perm hparts).mem_iff.2 hi)
  · intro f hf
    have hdatabase := hdatabases f ((Declarations.sqlFields_perm hparts).mem_iff.2 hf)
    rw [sqlFieldDbType?_of_tables htables] at hdatabase
    rw [sqlFieldDbType?_of_tables htables']
    exact hdatabase
  · have hkeys : ((projectOf config doc' d').plan d'.renames.storedModel d').filterMap Action.key? =
        d'.rootFields config.usesSync := Project.plan_keys (projectOf_grounded hd') _ rfl
    rw [Output.Free, hkeys]
    exact (Declarations.rootFields_perm hparts _).nodup_iff.1 (rootFields_nodup h hd)

section Same

variable (hdoc : doc.Rearranged doc') (hparts : ∀ type, d.part type = d'.part type)
include hdoc hparts

theorem resolves_rearranged (htables : ∀ model ∈ doc.modelNames, (config.strategyOf model).isSql = false) {r : Resolver}
    (hr : (projectOf config doc d).Resolves d key r) : (projectOf config doc' d').Resolves d' key r := by
  have htables' := tables_rearranged hdoc htables
  cases hr with
  | operation hm ho hkey =>
    rw [modelResolver_rearranged hdoc htables htables' _ d'.renames.storedModel, preAuth_rearranged hdoc,
      Declarations.primaryKey?_congr hparts, Declarations.indexesOf_congr hparts]
    exact .operation (Declarations.mem_models hparts hm) ho hkey
  | query hi hfield =>
    rw [queryResolver_rearranged hdoc htables htables' _ d'.renames.storedModel]
    exact .query ((Declarations.indexes_perm hparts).mem_iff.1 hi) hfield
  | statement hf => exact .statement ((Declarations.sqlFields_perm hparts).mem_iff.1 hf)

variable {api api' : Api} (h : compileDocument doc config = .ok api) (h' : compileDocument doc' config = .ok api')
  (hd : collect doc config (config.sourcesOf doc) = .ok d) (hd' : collect doc' config (config.sourcesOf doc') = .ok d')
include h h' hd hd'

theorem get?_registry_rearranged (htables : ∀ model ∈ doc.modelNames, (config.strategyOf model).isSql = false)
    {r : Resolver} : api.registry.get? key = some r → api'.registry.get? key = some r := by
  rw [get?_iff_resolves h hd htables, get?_iff_resolves h' hd' (tables_rearranged hdoc htables)]
  exact resolves_rearranged hdoc hparts htables

theorem get?_tables_rearranged {id : String} {t : Table} (ht : api.stack.tables.get? id = some t) :
    api'.stack.tables.get? id = some t := by
  obtain ⟨model, hmodel, hsql, rfl⟩ := model_of_table h hd ht
  obtain ⟨provisioning, hprov⟩ := Strategy.provisioned hsql
  have hchanges : (projectOf config doc d).indexChange = (projectOf config doc' d').indexChange :=
    funext (indexChange_rearranged hdoc)
  rw [table_of_model h hd hmodel hprov, keyChanges_rearranged hdoc, Declarations.primaryKey?_congr hparts,
    Declarations.indexesOf_congr hparts, Declarations.storedModel_congr hparts, hchanges] at ht
  rw [table_of_model h' hd' (mem_modelNames_rearranged hdoc.symm hmodel) hprov, ht]

end Same

/-- **The order of types does not matter.** Let all models be in tables, and let two documents have the same type
definitions in different orders, where definitions and extensions of one type keep theirs. Then both compile or none
does. They have the same resolver under every root field and the same table under every id, and only list them in
different orders. -/
theorem compiled_order_independent (hdoc : doc.Rearranged doc')
    (htables : ∀ model ∈ doc.modelNames, (config.strategyOf model).isSql = false) :
    ((∃ api, compileDocument doc config = .ok api) ↔ ∃ api', compileDocument doc' config = .ok api') ∧
    ∀ api api', compileDocument doc config = .ok api → compileDocument doc' config = .ok api' →
      (∀ key, api.registry.get? key = api'.registry.get? key) ∧
      (∀ id, api.stack.tables.get? id = api'.stack.tables.get? id) ∧
      api.registry.entries.Perm api'.registry.entries ∧ api.stack.tables.entries.Perm api'.stack.tables.entries := by
  have htables' := tables_rearranged hdoc htables
  refine ⟨⟨?_, ?_⟩, fun api api' h h' => ?_⟩
  · rintro ⟨api, h⟩
    obtain ⟨-, -, api', -, -, -, h'⟩ := compiles_rearranged hdoc htables h
    exact ⟨api', h'⟩
  · rintro ⟨api', h'⟩
    obtain ⟨-, -, api, -, -, -, h⟩ := compiles_rearranged hdoc.symm htables' h'
    exact ⟨api, h⟩
  · obtain ⟨d, d', -, hd, hd', hparts, -⟩ := compiles_rearranged hdoc htables h
    have hparts' : ∀ type, d'.part type = d.part type := fun type => (hparts type).symm
    have hregistry : ∀ key, api.registry.get? key = api'.registry.get? key := fun key => Option.ext fun r =>
      ⟨get?_registry_rearranged hdoc hparts h h' hd hd' htables,
        get?_registry_rearranged hdoc.symm hparts' h' h hd' hd htables'⟩
    have htable : ∀ id, api.stack.tables.get? id = api'.stack.tables.get? id := fun id => Option.ext fun t =>
      ⟨get?_tables_rearranged hdoc hparts h h' hd hd', get?_tables_rearranged hdoc.symm hparts' h' h hd' hd⟩
    exact ⟨hregistry, htable, OrderedMap.perm_of_get? hregistry, OrderedMap.perm_of_get? htable⟩

end Rearranged

/-- Authors by name and age, whose definition starts at a line. -/
def newsAuthor (line : Nat) : TypeDef := ⟨⟨line, 1⟩, "Author", false, .object [
  ⟨"id", [], .named "ID" false, []⟩,
  ⟨"name", [], .named "String" false, [⟨"index", ⟨line + 2, 18⟩,
    [("name", .str "byName"), ("sortKeyFields", .list [.str "age"]), ("queryField", .str "authorsByName")]⟩]⟩],
  [⟨"model", ⟨line, 13⟩, []⟩]⟩

/-- The age of authors is in an extension. -/
def newsAge (line : Nat) : TypeDef :=
  ⟨⟨line, 1⟩, "Author", true, .object [⟨"age", [], .named "Int" false, []⟩], []⟩

def newsPost (line : Nat) : TypeDef := ⟨⟨line, 1⟩, "Post", false, .object [
  ⟨"slug", [], .named "ID" false, [⟨"primaryKey", ⟨line + 1, 13⟩, [("sortKeyFields", .list [.str "day"])]⟩]⟩,
  ⟨"day", [], .named "Int" false, []⟩], [⟨"model", ⟨line, 11⟩, []⟩]⟩

def newsQuery (line : Nat) : TypeDef := ⟨⟨line, 1⟩, "Query", false, .object [
  ⟨"countPosts", [], .named "Int" true,
    [⟨"sql", ⟨line + 1, 19⟩, [("statement", .str "SELECT COUNT(*) FROM Post")]⟩]⟩], []⟩

def news : Document := ⟨[.type (newsAuthor 1), .type (newsPost 6), .type (newsAge 11), .type (newsQuery 15)]⟩

/-- The query comes first, and the posts come before the authors. -/
def newsShuffled : Document :=
  ⟨[.type (newsQuery 1), .type (newsPost 5), .type (newsAuthor 10), .type (newsAge 15)]⟩

/-- Posts are counted in a database. -/
def newsConfig : Config :=
  { sync := some {}
    customSql := [⟨.query, "countPosts",
      .postgres ⟨"db", ⟨"host", "port", "user", "password", "name"⟩, none, .empty, none⟩⟩] }

theorem news_rearranged : news.Rearranged newsShuffled := by
  refine .of_names ?_ ?_
  · have hpost : [newsAuthor 1, newsPost 6, newsAge 11, newsQuery 15].Perm
        [newsPost 6, newsAuthor 1, newsAge 11, newsQuery 15] := .swap _ _ _
    have hquery : ([newsPost 6, newsAuthor 1, newsAge 11] ++ [newsQuery 15]).Perm
        ([newsQuery 15] ++ [newsPost 6, newsAuthor 1, newsAge 11]) := List.perm_append_comm
    exact (hpost.trans hquery).map _
  · have hnames : news.types.map (·.name) = ["Author", "Post", "Author", "Query"] := rfl
    simp only [hnames, List.forall_mem_cons]
    exact ⟨rfl, rfl, rfl, rfl, List.forall_mem_nil _⟩

/-- The resolvers are listed in different orders. -/
theorem news_order_independent : ∃ api api', compileDocument news newsConfig = .ok api ∧
    compileDocument newsShuffled newsConfig = .ok api' ∧ news.Rearranged newsShuffled ∧
    (∀ model ∈ news.modelNames, (newsConfig.strategyOf model).isSql = false) ∧
    (∀ key, api.registry.get? key = api'.registry.get? key) ∧
    (∀ id, api.stack.tables.get? id = api'.stack.tables.get? id) ∧
    api.registry.keys ≠ api'.registry.keys := by
  have hsome : (compileDocument news newsConfig).toOption.isSome = true := by decide +kernel
  obtain ⟨api, hapi⟩ := Option.isSome_iff_exists.1 hsome
  have h : compileDocument news newsConfig = .ok api := ok_of_toOption hapi
  have htables : ∀ model ∈ news.modelNames, (newsConfig.strategyOf model).isSql = false := by decide
  obtain ⟨hcompiles, hsame⟩ := compiled_order_independent news_rearranged htables
  obtain ⟨api', h'⟩ := hcompiles.1 ⟨api, h⟩
  obtain ⟨hregistry, htable, -⟩ := hsame api api' h h'
  have hkeys : (compileDocument news newsConfig).toOption.map (·.registry.keys) ≠
      (compileDocument newsShuffled newsConfig).toOption.map (·.registry.keys) := by decide +kernel
  refine ⟨api, api', h, h', news_rearranged, htables, hregistry, htable, fun heq => hkeys ?_⟩
  rw [h, h']
  exact congrArg some heq

end ModelApi
