import ModelApi.Proofs.Compile.FieldMaps
import ModelApi.Proofs.Compile.Placement
import ModelApi.Proofs.Compile.PreAuth

/-!
# Keys registered for sync

Keys are registered one at a time, with resolvers that may not even exist, and the choice among them is added at the
very end.

* `entriesFor`: what calls register with one resolver;
* `get?_ofCalls`: the calls for one resolver do not meet those for another;
* `applySync_ofCalls`: what a sequence of calls makes of a registry, whatever their order between resolvers;
* `syncNames_nodup_iff`, `reserved_iff`: when the names of the keys of a model tell them apart;
* `compiled_sync_names`: the names in the sync queries of an API.
-/

namespace ModelApi

open Schema (Document)
open Text (joinWith)

/-! ## registering keys and adding the choice -/

/-- What calls register, one after the other: each names a resolver, and a key with the name to register it under. -/
def SyncKeys.ofCalls (calls : List (ResolverKey × SyncEntry)) : SyncKeys :=
  calls.foldl (fun s c => s.register c.1 c.2.name c.2.key) .empty

/-- The keys that calls register with the resolver of a root field, in the order of the calls. -/
def entriesFor (key : ResolverKey) (calls : List (ResolverKey × SyncEntry)) : List SyncEntry :=
  (calls.filter (·.1 == key)).map Prod.snd

theorem SyncKeys.get?_register (s : SyncKeys) (key other : ResolverKey) (e : SyncEntry) :
    (s.register other e.name e.key).get? key =
      if other = key then some ((s.get? key).getD [] ++ [e]) else s.get? key := by
  rw [register, OrderedMap.get?_upsert]
  by_cases h : other = key
  · rw [if_pos h.symm, if_pos h, h]
  · rw [if_neg (Ne.symm h), if_neg h]

/-- A resolver is mentioned once some call is for it, and then with all the keys of those calls. -/
theorem SyncKeys.get?_ofCalls (calls : List (ResolverKey × SyncEntry)) (key : ResolverKey) :
    (ofCalls calls).get? key = if entriesFor key calls = [] then none else some (entriesFor key calls) := by
  have hfold : ∀ s : SyncKeys, (calls.foldl (fun s c => s.register c.1 c.2.name c.2.key) s).get? key =
      (entriesFor key calls).foldl (fun entries e => some (entries.getD [] ++ [e])) (s.get? key) := by
    induction calls with
    | nil => exact fun s => rfl
    | cons c calls ih =>
      intro s
      rw [List.foldl_cons, ih, get?_register]
      by_cases h : c.1 = key
      · simp [entriesFor, h]
      · simp [entriesFor, h]
  rw [ofCalls, hfold, OrderedMap.get?_empty, foldl_registrations]

/-- **Registering keys and adding the choice.** Let keys be registered by any calls and then the choice among them be
added. The registry keeps its resolvers, in their order. A resolver that some call is for gains one template before
authorization, behind those that are there: the registrations of the calls for it, one after the other, between the
set-up of the maps and the matching of the filter. Any other resolver stays as it is, and calls for resolvers that do
not exist have no effect. So the outcome is settled by the calls for each of the resolvers, in their order: it does not
matter how calls for different resolvers follow each other. -/
theorem Registry.applySync_ofCalls (r : Registry) (calls : List (ResolverKey × SyncEntry)) :
    (r.applySync (.ofCalls calls)).keys = r.keys ∧
    (∀ key x, r.get? key = some x → entriesFor key calls ≠ [] →
      ∃ x', (r.applySync (.ofCalls calls)).get? key = some x' ∧
        x.Gains (syncSetup.print ++ "\n" ++
          joinWith "\n" ((entriesFor key calls).map fun e => (syncRegistration e.name e.key).print) ++ "\n" ++
          matchFilter.print ++ "\n" ++ syncPartition.print ++ "\n" ++ syncSort.print ++ "\n" ++ syncQuery.print ++
          "\n") x') ∧
    (∀ key, entriesFor key calls = [] → (r.applySync (.ofCalls calls)).get? key = r.get? key) ∧
    ∀ calls', (∀ key ∈ r.keys, entriesFor key calls' = entriesFor key calls) →
      r.applySync (.ofCalls calls') = r.applySync (.ofCalls calls) := by
  refine ⟨keys_applySync r _, fun key x hx hcalled => ?_, fun key hnone => ?_, fun calls' hsame => ?_⟩
  · refine ⟨x.addSyncChoice (registrationsText (entriesFor key calls)), ?_, ?_⟩
    · rw [get?_applySync, SyncKeys.get?_ofCalls, if_neg hcalled, hx]
      rfl
    · simp only [print_syncRegistration]
      exact x.gains_addSyncChoice _
  · rw [get?_applySync, SyncKeys.get?_ofCalls, if_pos hnone]
    exact Option.map_id'
  · refine OrderedMap.ext_get? _ ((keys_applySync r _).trans (keys_applySync r _).symm) fun key hkey => ?_
    rw [keys_applySync] at hkey
    rw [get?_applySync, get?_applySync, SyncKeys.get?_ofCalls, SyncKeys.get?_ofCalls, hsame key hkey]

/-- The sync query of posts with a template before authorization, and their own query. -/
def feed : Registry := .ofList [
  (⟨"Query", "syncPosts"⟩, ⟨some "PostTable", "request", "response", "Post", { preAuth := [.ofRequest "first"] }⟩),
  (⟨"Query", "getPost"⟩, ⟨some "PostTable", "request", "response", "Post", {}⟩)]

/-- Two keys of posts, and between them one for a resolver that does not exist. -/
def feedCalls : List (ResolverKey × SyncEntry) := [
  (⟨"Query", "syncPosts"⟩, ⟨primaryKeySyncName, ⟨⟨"id", .named "ID" false⟩, []⟩⟩),
  (⟨"Query", "syncComments"⟩, ⟨primaryKeySyncName, ⟨⟨"id", .named "ID" false⟩, []⟩⟩),
  (⟨"Query", "syncPosts"⟩, ⟨"byAuthor", ⟨⟨"author", .named "ID" false⟩, [⟨"date", .named "String" false⟩]⟩⟩)]

theorem feed_applySync :
    (entriesFor ⟨"Query", "syncPosts"⟩ feedCalls).map (·.name) = ["dbTable", "byAuthor"] ∧
    (∃ x', (feed.applySync (.ofCalls feedCalls)).get? ⟨"Query", "syncPosts"⟩ = some x' ∧
      x'.slots.preAuth.length = 2) ∧
    (feed.applySync (.ofCalls feedCalls)).get? ⟨"Query", "getPost"⟩ = feed.get? ⟨"Query", "getPost"⟩ ∧
    feed.applySync (.ofCalls (feedCalls.filter (·.1.fieldName == "syncPosts"))) =
      feed.applySync (.ofCalls feedCalls) := by
  obtain ⟨-, hgains, hstays, horder⟩ := Registry.applySync_ofCalls feed feedCalls
  refine ⟨rfl, ?_, hstays _ rfl, horder _ (by decide)⟩
  obtain ⟨x', hx', hpreAuth, -⟩ := hgains ⟨"Query", "syncPosts"⟩ _ rfl (by decide)
  exact ⟨x', hx', by rw [hpreAuth]; rfl⟩

/-! ## the names of the keys of a model -/

namespace Declarations

/-- The keys of a model and the names that they are registered under: the primary key, then the indexes in order. -/
def syncEntries (d : Declarations) (model : String) : List SyncEntry :=
  (d.primaryKey? model).toList.map (⟨primaryKeySyncName, ·.key⟩) ++ (d.indexesOf model).map fun i => ⟨i.name, i.key⟩

variable {d : Declarations} {model : String}

theorem syncNames_eq : (d.syncEntries model).map (·.name) =
    (d.primaryKey? model).toList.map (fun _ => primaryKeySyncName) ++ (d.indexesOf model).map (·.name) := by
  simp [syncEntries, Function.comp_def]

/-- Names are distinct unless an index has the name that is kept for the primary key, and there is one. -/
theorem syncNames_nodup_iff (hnames : ((d.indexesOf model).map (·.name)).Nodup) :
    ((d.syncEntries model).map (·.name)).Nodup ↔
      ((d.primaryKey? model).isSome → ∀ i ∈ d.indexesOf model, i.name ≠ primaryKeySyncName) := by
  rw [syncNames_eq]
  cases d.primaryKey? model with
  | none => simpa using hnames
  | some k => simp [List.nodup_cons, hnames]

/-- The name that is kept for the primary key is its own unless an index has it. -/
theorem reserved_iff : (d.syncEntries model).filter (·.name == primaryKeySyncName) =
      (d.primaryKey? model).toList.map (⟨primaryKeySyncName, ·.key⟩) ↔
    ∀ i ∈ d.indexesOf model, i.name ≠ primaryKeySyncName := by
  have hprimary : ((d.primaryKey? model).toList.map fun k => SyncEntry.mk primaryKeySyncName k.key).filter
      (·.name == primaryKeySyncName) = (d.primaryKey? model).toList.map (⟨primaryKeySyncName, ·.key⟩) := by
    simp [List.filter_eq_self]
  rw [syncEntries, List.filter_append, hprimary, List.append_right_eq_self]
  simp [List.filter_eq_nil_iff]

end Declarations

/-! ## the names in an API -/

/-- What is registered with the sync operation of a model in a table, where sync is used. -/
theorem Project.syncKeys_of_tableModel {p : Project} {d : Declarations} (hp : p.Grounded) (hd : d.KeysSound p.doc)
    (hapart : (p.models.values.flatMap (·.rootFields p.config.usesSync)).Nodup) (stored : String → String)
    {out : Output} (hsync : out.syncKeys = .empty) {m : Model} (hm : m ∈ p.models.values) {key : ResolverKey}
    (ho : .sync ∈ p.operations m) (hkey : m.key? .sync = some key) (hclear : p.ClearOfSql key) :
    ((out.after (p.plan stored d)).syncKeys.get? key).getD [] = d.syncEntries m.name := by
  have howned : p.OwnedBy (only m.name .sync) key := ownedBy_operation hp hapart hm ho hkey
  have hplan : p.plan stored d = p.models.values.flatMap (p.modelPlan stored) ++ p.laterPlan stored d := rfl
  have hentries : (p.plan stored d).filterMap (Action.entryFor? key) = d.syncEntries m.name := by
    rw [hplan, List.filterMap_append, Action.entries_of_plain plain_models, List.nil_append,
      entries_of_operation hd hclear stored howned]
    rfl
  rw [Output.syncKeys_after, hentries, hsync, OrderedMap.get?_empty, foldl_registrations]
  split
  · rename_i hnone
    rw [hnone]
    rfl
  · rfl

section Document

variable {doc : Document} {config : Config} {d : Declarations} {api : Api}

/-- **The names in sync queries.** Take an API that uses sync, and the sync query of a model in a table. The keys that
the build registers with it are the primary key, if the model has one, under the name that is kept for it, and the
indexes in order under their own names, which are distinct; the query chooses among just these. So the names tell the
keys apart unless the model has a primary key and an index of the name that is kept for it. That name is the primary
key's alone exactly when no index has it. -/
theorem compiled_sync_names (h : compileDocument doc config = .ok api)
    (hd : collect doc config (config.sourcesOf doc) = .ok d) (hsync : config.usesSync = true) {m : Model}
    (hm : m ∈ d.models.values) (htable : (config.strategyOf m.name).isSql = false) {key : ResolverKey}
    (hkey : m.key? .sync = some key) :
    (∃ out, outcome ((projectOf config doc d).build d) d.start = (.ok (), out) ∧ api = out.finish ∧
      (out.syncKeys.get? key).getD [] = d.syncEntries m.name) ∧
    Registry.preAuth? api.registry key = some (SlotTemplate.choice (d.syncEntries m.name)) ∧
    (d.syncEntries m.name).map (·.name) = (d.primaryKey? m.name).toList.map (fun _ => primaryKeySyncName) ++
      (d.indexesOf m.name).map (·.name) ∧
    ((d.indexesOf m.name).map (·.name)).Nodup ∧
    (((d.syncEntries m.name).map (·.name)).Nodup ↔
      ((d.primaryKey? m.name).isSome → ∀ i ∈ d.indexesOf m.name, i.name ≠ primaryKeySyncName)) ∧
    ((d.syncEntries m.name).filter (·.name == primaryKeySyncName) =
        (d.primaryKey? m.name).toList.map (⟨primaryKeySyncName, ·.key⟩) ↔
      ∀ i ∈ d.indexesOf m.name, i.name ≠ primaryKeySyncName) := by
  let p := projectOf config doc d
  have hp : p.Grounded := projectOf_grounded hd
  have hn : (p.models.values.flatMap (·.rootFields p.config.usesSync)).Nodup :=
    (List.nodup_append.1 (List.nodup_append.1 (rootFields_nodup h hd)).1).1
  have hsql : p.isSqlModel m.name = false :=
    (isSqlModel_projectOf ((collect_models hd _).1 (hp.mem_keys hm))).trans htable
  have ho : .sync ∈ p.operations m := by
    obtain ⟨field, hfield, -⟩ := Option.map_eq_some_iff.1 hkey
    refine List.mem_filter.2 ⟨by decide, ?_⟩
    have huses : p.config.usesSync = true := hsync
    simp [huses, hfield]
  have hclear : p.ClearOfSql key := Project.clearOfSql_of_sync hp hn hm hsql ho hkey fun _ _ => hsync
  obtain ⟨hu, -⟩ := collect_of_compileDocument h
  obtain ⟨⟨hok, hfree⟩, rfl⟩ := (compileDocument_eq_ok hu hd).1 h
  have hnames := indexNames_nodup hd hok.1 m.name
  refine ⟨⟨_, (build_document hd).run d.start rfl hok hfree, rfl, ?_⟩, ?_, Declarations.syncNames_eq, hnames,
    Declarations.syncNames_nodup_iff hnames, Declarations.reserved_iff⟩
  · exact Project.syncKeys_of_tableModel hp (collect_keysSound hd) hn _ rfl hm ho hkey hclear
  · exact Project.preAuth_of_tableOperation hp (collect_keysSound hd) hn _ rfl hfree hm hsql ho hkey hclear

end Document

theorem diary_sync_names : ∃ d api m, compileDocument diary diaryConfig = .ok api ∧
    collect diary diaryConfig (diaryConfig.sourcesOf diary) = .ok d ∧ diaryConfig.usesSync = true ∧
    m ∈ d.models.values ∧ (diaryConfig.strategyOf m.name).isSql = false ∧
    m.key? .sync = some ⟨"Query", "syncEntries"⟩ ∧
    Registry.preAuth? api.registry ⟨"Query", "syncEntries"⟩ = some (SlotTemplate.choice (d.syncEntries m.name)) ∧
    (d.syncEntries m.name).map (·.name) = ["dbTable", "byDay", "byPlace"] ∧
    ((d.syncEntries m.name).map (·.name)).Nodup ∧
    ((d.syncEntries m.name).filter (·.name == primaryKeySyncName)).length = 1 := by
  have hsome : (compileDocument diary diaryConfig).toOption.isSome = true := by decide +kernel
  obtain ⟨api, hapi⟩ := Option.isSome_iff_exists.1 hsome
  have h : compileDocument diary diaryConfig = .ok api := ok_of_toOption hapi
  obtain ⟨-, hslot, -, -, hdistinct, hreserved⟩ :=
    compiled_sync_names h rfl rfl List.mem_cons_self rfl rfl
  exact ⟨_, api, _, h, rfl, rfl, List.mem_cons_self, rfl, rfl, hslot, by decide, hdistinct.2 (by decide),
    by rw [hreserved.2 (by decide)]; rfl⟩

/-- Posts with a primary key, and an index of the name that is kept for primary keys. -/
def renamedTable : Document := ⟨[
  .type ⟨⟨1, 1⟩, "Post", false, .object [
    ⟨"id", [], .named "ID" false, [⟨"primaryKey", ⟨2, 11⟩, []⟩]⟩,
    ⟨"author", [], .named "ID" false, [⟨"index", ⟨3, 15⟩, [("name", .str "dbTable")]⟩]⟩],
    [⟨"model", ⟨1, 11⟩, [("queries", .object [("sync", .str "syncPosts")]), ("mutations", .null)]⟩]⟩]⟩

/-- Sync is used. -/
def renamedConfig : Config := { sync := some {} }

/-- The primary key and the index are registered under one name. -/
theorem index_named_as_table : ∃ d api out entries, compileDocument renamedTable renamedConfig = .ok api ∧
    collect renamedTable renamedConfig (renamedConfig.sourcesOf renamedTable) = .ok d ∧
    outcome ((projectOf renamedConfig renamedTable d).build d) d.start = (.ok (), out) ∧
    out.syncKeys.get? ⟨"Query", "syncPosts"⟩ = some entries ∧
    entries.map (fun e => (e.name, e.key.names)) = [("dbTable", ["id"]), ("dbTable", ["author"])] ∧
    ¬ (entries.map (·.name)).Nodup := by
  have hsome : (compileDocument renamedTable renamedConfig).toOption.isSome = true := by decide +kernel
  obtain ⟨api, hapi⟩ := Option.isSome_iff_exists.1 hsome
  exact ⟨_, api, _, _, ok_of_toOption hapi, rfl, rfl, rfl, by decide, by decide⟩

end ModelApi
