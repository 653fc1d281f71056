import Mathlib.Data.List.Basic
import ModelApi.Proofs.Compile.Build

/-!
# When a document compiles, and which root fields it gets

Models, queries on indexes and fields with statements share one set of root fields. Once the directives are collected,
three things decide whether a document compiles: names of indexes, databases of fields with statements, and that no root
field is asked for twice. The resolvers then answer just these fields, in order.
-/

namespace ModelApi

open Schema (Document queryType mutationType)

/-- The root fields of a model: its queries, of which sync needs to be switched on, then its mutations. -/
def Model.rootFields (sync : Bool) (m : Model) : List ResolverKey :=
  ([m.get, m.list] ++ if sync then [m.sync] else []).filterMap (·.map (ResolverKey.mk queryType)) ++
    [m.create, m.update, m.delete].filterMap (·.map (ResolverKey.mk mutationType))

/-- The root fields of all that is declared: those of the models, the queries on indexes, and fields with statements. -/
def Declarations.rootFields (sync : Bool) (d : Declarations) : List ResolverKey :=
  d.models.values.flatMap (·.rootFields sync) ++ d.indexes.filterMap (·.queryField.map (ResolverKey.mk queryType)) ++
    d.sqlFields.map (·.key)

/-! ## the root fields of a plan -/

namespace Project

variable {p : Project}

theorem operations_keys (m : Model) : (p.operations m).filterMap m.key? = m.rootFields p.config.usesSync := by
  -- an operation without a name has no root field either, so that check may be dropped
  have hoffered : (p.operations m).filterMap m.key? =
      Operation.all.filterMap fun o => if p.config.usesSync || o != .sync then m.key? o else none := by
    unfold operations
    rw [List.filterMap_filter]
    congr 1
    funext o
    unfold Model.key?
    cases m.field? o <;> simp
  have hsplit : Operation.all = [.get, .list, .sync] ++ [.create, .update, .delete] := rfl
  rw [hoffered, hsplit, List.filterMap_append]
  cases p.config.usesSync <;> rfl

theorem itemOperationPlan_keys (m : Model) (o : Operation) :
    (p.itemOperationPlan m o).filterMap Action.key? = (m.key? o).toList := by
  unfold itemOperationPlan
  cases m.key? o <;> rfl

theorem sqlOperationPlan_keys (stored : String → String) (m : Model) (o : Operation) :
    (p.sqlOperationPlan stored m o).filterMap Action.key? = (m.key? o).toList := by
  unfold sqlOperationPlan
  cases m.key? o <;> rfl

theorem modelPlan_keys {m : Model} (hm : (p.dataSources.get? m.name).isSome) (stored : String → String) :
    (p.modelPlan stored m).filterMap Action.key? = m.rootFields p.config.usesSync := by
  obtain ⟨s, hs⟩ := Option.isSome_iff_exists.1 hm
  rw [← operations_keys, List.filterMap_eq_flatMap_toList m.key?]
  simp only [modelPlan, hs]
  cases s.provisioning? with
  | some provisioning =>
    rw [List.filterMap_cons_none rfl, List.filterMap_flatMap]
    simp only [itemOperationPlan_keys]
  | none =>
    rw [List.filterMap_cons_none rfl, List.filterMap_flatMap]
    simp only [sqlOperationPlan_keys]

theorem primaryKeyPlan_keys (k : PrimaryKey) : (p.primaryKeyPlan k).filterMap Action.key? = [] := by
  unfold primaryKeyPlan
  split
  · exact keyless_linesPlan _ _
  · rw [List.filterMap_cons_none rfl, List.filterMap_append, keyless_linesPlan, keyless_syncPlan]
    rfl

theorem queryPlan_keys (stored : String → String) (i : Index) :
    (p.queryPlan stored i).filterMap Action.key? = (i.queryField.map (ResolverKey.mk queryType)).toList := by
  unfold queryPlan
  cases i.queryField with
  | none => rfl
  | some field => cases p.isSqlModel i.model <;> rfl

theorem indexPlan_keys (stored : String → String) (i : Index) :
    (p.indexPlan stored i).filterMap Action.key? = (i.queryField.map (ResolverKey.mk queryType)).toList := by
  unfold indexPlan
  split
  · exact queryPlan_keys stored i
  · rw [List.filterMap_cons_none rfl, List.filterMap_append, List.filterMap_append, keyless_linesPlan,
      keyless_syncPlan, queryPlan_keys, List.nil_append, List.append_nil]

theorem sqlFieldPlan_keys (f : SqlField) : (p.sqlFieldPlan f).filterMap Action.key? = [f.key] := by
  unfold sqlFieldPlan
  cases p.sqlFieldDbType? f <;> rfl

theorem models_keys (hp : p.Grounded) (stored : String → String) :
    (p.models.values.flatMap (p.modelPlan stored)).filterMap Action.key? =
      p.models.values.flatMap (·.rootFields p.config.usesSync) := by
  rw [List.filterMap_flatMap]
  exact List.flatMap_congr fun m hm => modelPlan_keys (hp.sourced _ (hp.mem_keys hm)) stored

/-- The plan adds resolvers for just the root fields that are declared, in their order. -/
theorem plan_keys (hp : p.Grounded) (stored : String → String) {d : Declarations} (hd : p.models = d.models) :
    (p.plan stored d).filterMap Action.key? = d.rootFields p.config.usesSync := by
  have hprimary : d.primaryKeys.flatMap (fun k => (p.primaryKeyPlan k).filterMap Action.key?) = [] :=
    List.flatMap_eq_nil_iff.2 fun k _ => primaryKeyPlan_keys k
  rw [plan, List.filterMap_append, models_keys hp, hd]
  simp only [List.filterMap_append, List.filterMap_flatMap, hprimary, indexPlan_keys, sqlFieldPlan_keys,
    ← List.filterMap_eq_flatMap_toList, ← List.map_eq_flatMap, Declarations.rootFields, List.nil_append,
    List.append_assoc]

end Project

/-! ## the last templates add no resolver -/

theorem Registry.keys_applySync (r : Registry) (s : SyncKeys) : (r.applySync s).keys = r.keys := by
  unfold applySync
  induction s.entries generalizing r with
  | nil => rfl
  | cons e entries ih => rw [List.foldl_cons, ih, OrderedMap.keys_update]

theorem Registry.keys_attachFieldMap (r : Registry) (m : FieldMap) : (r.attachFieldMap m).keys = r.keys := by
  unfold attachFieldMap
  split
  · rfl
  · induction m.references generalizing r with
    | nil => rfl
    | cons reference references ih => rw [List.foldl_cons, ih, OrderedMap.keys_update]

theorem Registry.keys_attachFieldMaps (r : Registry) (renames : Renames) :
    (r.attachFieldMaps renames).keys = r.keys := by
  unfold attachFieldMaps
  induction renames.fieldMaps.values generalizing r with
  | nil => rfl
  | cons m maps ih => rw [List.foldl_cons, ih, keys_attachFieldMap]

theorem Output.keys_finish (out : Output) : out.finish.registry.keys = out.registry.keys := by
  rw [finish, Registry.keys_attachFieldMaps, Registry.keys_applySync]

/-! ## documents -/

/-- **When a document compiles.** Where no directive is out of place or misused, a document compiles exactly when every
index has a name, every field with a statement has a database, and no root field is asked for twice. The resolvers are
then those of the root fields, in order. -/
theorem compileDocument_isOk_iff {doc : Document} {config : Config} {d : Declarations}
    (hu : firstUnsupported? doc (config.sourcesOf doc) = none)
    (hd : collect doc config (config.sourcesOf doc) = .ok d) :
    ((∃ api, compileDocument doc config = .ok api) ↔
      (∀ i ∈ d.indexes, i.name ≠ "") ∧
      (∀ f ∈ d.sqlFields, ((projectOf config doc d).sqlFieldDbType? f).isSome) ∧
      (d.rootFields config.usesSync).Nodup) ∧
    ∀ api, compileDocument doc config = .ok api → api.registry.keys = d.rootFields config.usesSync := by
  have hkeys : ((projectOf config doc d).plan d.renames.storedModel d).filterMap Action.key? =
      d.rootFields config.usesSync := Project.plan_keys (projectOf_grounded hd) _ rfl
  have hfree : d.start.Free ((projectOf config doc d).plan d.renames.storedModel d) ↔
      (d.rootFields config.usesSync).Nodup := by
    rw [Output.Free, hkeys]
    exact Iff.rfl
  refine ⟨⟨?_, ?_⟩, ?_⟩
  · rintro ⟨api, h⟩
    obtain ⟨⟨⟨hnames, hdbs⟩, hn⟩, -⟩ := (compileDocument_eq_ok hu hd).1 h
    exact ⟨hnames, hdbs, hfree.1 hn⟩
  · rintro ⟨hnames, hdbs, hn⟩
    exact ⟨_, (compileDocument_eq_ok hu hd).2 ⟨⟨⟨hnames, hdbs⟩, hfree.2 hn⟩, rfl⟩⟩
  · intro api h
    obtain ⟨⟨-, hn⟩, rfl⟩ := (compileDocument_eq_ok hu hd).1 h
    rw [Output.keys_finish, Output.keys_after _ _ hn, hkeys]
    rfl

/-- Posts in a table, authors in a database, and a count of the authors. -/
def blog : Document := ⟨[
  .type ⟨⟨1, 1⟩, "Post", false, .object [
    ⟨"id", [], .named "ID" false, [⟨"primaryKey", ⟨2, 11⟩, [("sortKeyFields", .list [.str "day"])]⟩]⟩,
    ⟨"day", [], .named "Int" false,
      [⟨"index", ⟨3, 13⟩, [("name", .str "byDay"), ("queryField", .str "postsByDay")]⟩]⟩], [⟨"model", ⟨1, 11⟩, []⟩]⟩,
  .type ⟨⟨5, 1⟩, "Author", false, .object [
    ⟨"id", [], .named "ID" false, [⟨"primaryKey", ⟨6, 11⟩, []⟩]⟩], [⟨"model", ⟨5, 13⟩, []⟩]⟩,
  .type ⟨⟨8, 1⟩, "Query", false, .object [
    ⟨"countAuthors", [], .named "Int" true, [⟨"sql", ⟨9, 21⟩, [("statement", .str "SELECT COUNT(*) FROM Author")]⟩]⟩],
    []⟩]⟩

/-- The database of the authors. -/
def blogConfig : Config :=
  { dataSources := .ofList
      [("Author", .mysql ⟨"db", ⟨"host", "port", "user", "password", "name"⟩, none, .empty, none⟩)] }

set_option maxRecDepth 10000 in
theorem blog_compiles : ∃ d, firstUnsupported? blog (blogConfig.sourcesOf blog) = none ∧
    collect blog blogConfig (blogConfig.sourcesOf blog) = .ok d ∧
    ∃ api, compileDocument blog blogConfig = .ok api ∧ api.registry.keys = d.rootFields false ∧
      (d.rootFields false).map (·.text) =
        ["Query.getPost", "Query.listPosts", "Mutation.createPost", "Mutation.updatePost", "Mutation.deletePost",
          "Query.getAuthor", "Query.listAuthors", "Mutation.createAuthor", "Mutation.updateAuthor",
          "Mutation.deleteAuthor", "Query.postsByDay", "Query.countAuthors"] := by
  refine ⟨_, rfl, rfl, ?_⟩
  obtain ⟨hiff, hkeys⟩ := @compileDocument_isOk_iff blog blogConfig _ rfl rfl
  obtain ⟨api, h⟩ := hiff.2 (by decide +kernel)
  exact ⟨api, h, hkeys api h, by decide +kernel⟩

end ModelApi
