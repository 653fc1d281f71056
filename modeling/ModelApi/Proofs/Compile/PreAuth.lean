import ModelApi.Proofs.Compile.Ownership
import ModelApi.Proofs.Compile.Slots
import ModelApi.Proofs.Directive.WellFormed

/-!
# The slot before authorization

Where all models are kept in tables, the templates before authorization are known for every resolver. A primary key has
one template in each operation of its model but sync, an index with a composite sort key has one in each mutation, and
in sync queries all keys share one template. Queries on indexes and fields with statements have none.

Beside models in databases, this still holds for each root field that they give to none of their operations.

* `Project.keyTexts`, `Index.guard?`: the texts that a primary key and an index have for an operation;
* `Project.OwnedBy`: the one operation, if any, that keys and indexes find under a root field;
* `Project.ClearOfSql`: models in databases give the root field to no operation, so their keys do not get to it;
* `linesPlan_lines`, `syncPlan_entries`: what plans have for a root field, by its owner;
* `laterPlan_lines`, `laterPlan_entries`: the same for all that comes after the models;
* `preAuth_of_tableOperation`: the slot of an operation;
* `compiled_preAuth`: the slot of every resolver.
-/

namespace ModelApi

open Schema (Document queryType)
open Text (joinWith)

variable {key : ResolverKey}

/-! ## what keys and indexes add -/

/-- The texts that a primary key adds to an operation of its model. -/
def Project.keyTexts (p : Project) (k : Key) : Operation → List String
  | .get => [k.stashText "ctx.args"]
  | .list => [(keyQuery p.doc k true).print,
      "$util.qr($ctx.stash.put(\"modelQueryExpression\", $modelQueryExpression))"]
  | .create | .update => [mergeText, k.stashText "mergedValues", if 2 ≤ k.sort.length then k.ensureText false else ""]
  | .delete => [mergeText, k.stashText "mergedValues"]
  | .sync => []

theorem Project.keyLines_eq (p : Project) (k : Key) (o : Operation) : p.keyLines k o = p.keyTexts k o := by
  have hensure : ensureCompositeTemplate k false = if 2 ≤ k.sort.length then k.ensureText false else "" := by
    by_cases h : 2 ≤ k.sort.length
    · rw [if_pos h, ensureCompositeTemplate_eq (decide_eq_true h)]
    · rw [if_neg h, ensureCompositeTemplate, Key.isComposite, decide_eq_false h]
      rfl
  cases o with
  | get => exact congrArg (fun text => [text]) (objectKeyTemplate_eq k false)
  | list => rfl
  | delete => simp only [keyLines, keyTexts, mergeTemplate_eq, objectKeyTemplate_eq, keySource, if_true]
  | sync => rfl
  | _ => simp only [keyLines, keyTexts, mergeTemplate_eq, objectKeyTemplate_eq, keySource, if_true, hensure]

/-- The texts that an index with a composite sort key adds to an operation of its model. -/
def Index.guard? (i : Index) : Operation → Option (List String)
  | .create => some [mergeText, i.validateText "create" "creating", i.key.ensureText true]
  | .update => some [mergeText, i.validateText "update" "updating", i.key.ensureText true]
  | .delete => some [mergeText, i.key.ensureText false]
  | .get | .list | .sync => none

theorem isEmpty_ensureCompositeTemplate (k : Key) (onlyWhenSeen : Bool) :
    (ensureCompositeTemplate k onlyWhenSeen).isEmpty = !k.isComposite := by
  unfold ensureCompositeTemplate
  cases k.isComposite with
  | false => rfl
  | true => simp [Expr.print, Expr.render, Expr.renderAll, Text.joinWith]

theorem isEmpty_validateIndexTemplate (i : Index) (m : KeyMutation) :
    (validateIndexTemplate i m).isEmpty = !i.key.isComposite := by
  unfold validateIndexTemplate
  cases i.key.isComposite with
  | false => rfl
  | true => simp [Expr.printSteps, Expr.printBlock, Expr.startMark]

/-! ## owners -/

/-- Keys and indexes of each model find a root field as the operation that `owner` gives for the model, if any. -/
structure Project.OwnedBy (p : Project) (owner : String → Option Operation) (key : ResolverKey) : Prop where
  found : ∀ model o, (o = .sync → p.config.usesSync = true) → (p.resolverKey? model o = some key ↔ owner model = some o)
  offered : ∀ model, owner model = some .sync → p.config.usesSync = true

/-- One operation of one model. -/
def only (model : String) (o : Operation) (other : String) : Option Operation :=
  if other = model then some o else none

namespace Project

variable {p : Project} {owner : String → Option Operation}

/-- A model has a root field for one of its operations only. -/
theorem operation_unique {m : Model} (hn : (m.rootFields p.config.usesSync).Nodup) {o o' : Operation}
    (ho : o ∈ p.operations m) (ho' : o' ∈ p.operations m) (hkey : m.key? o = some key) (hkey' : m.key? o' = some key) :
    o = o' := by
  rw [← operations_keys] at hn
  have hpairs := List.pairwise_filterMap.1 hn
  by_contra hne
  have hsymm : Std.Symm fun a b : Operation => ∀ k, m.key? a = some k → ∀ k', m.key? b = some k' → k ≠ k' :=
    ⟨fun a b h k hk k' hk' he => h k' hk' k hk he.symm⟩
  exact hpairs.forall ho ho' hne key hkey key hkey' rfl

theorem Grounded.get? (hp : p.Grounded) {m : Model} (hm : m ∈ p.models.values) : p.models.get? m.name = some m := by
  obtain ⟨e, he, rfl⟩ := List.mem_map.1 hm
  rw [hp.named e he]
  exact OrderedMap.get?_of_mem _ he

theorem ownedBy_operation (hp : p.Grounded)
    (hn : (p.models.values.flatMap (·.rootFields p.config.usesSync)).Nodup) {m : Model} (hm : m ∈ p.models.values)
    {o : Operation} (ho : o ∈ p.operations m) (hkey : m.key? o = some key) : p.OwnedBy (only m.name o) key := by
  have hroot : key ∈ m.rootFields p.config.usesSync := by
    rw [← operations_keys]
    exact List.mem_filterMap.2 ⟨o, ho, hkey⟩
  refine ⟨fun model o' ho' => ⟨fun h => ?_, fun h => ?_⟩, fun model h => ?_⟩
  · have hmodel : model = m.name := by
      by_contra hne
      exact foreign_of_nodup hp hn hm hroot hne o' ho' h
    obtain ⟨n, hvalue, hname, hoffered, hkey', -⟩ := mem_rootFields_of_resolverKey? hp ho' h
    have hsame : n = m := by
      have hget := hp.get? hvalue
      rw [hname, hmodel, hp.get? hm] at hget
      exact (Option.some.inj hget).symm
    subst hsame
    rw [hmodel, only, if_pos rfl, operation_unique ((List.nodup_flatMap.1 hn).1 n hm) ho hoffered hkey hkey']
  · obtain ⟨rfl, rfl⟩ : model = m.name ∧ o = o' := by simpa [only] using h
    rw [resolverKey?, hp.get? hm]
    exact hkey
  · obtain ⟨rfl, rfl⟩ : model = m.name ∧ o = .sync := by simpa [only] using h
    have hoffered := (List.mem_filter.1 ho).2
    simp only [bne_self_eq_false, Bool.or_false, Bool.and_eq_true] at hoffered
    exact hoffered.1

theorem OwnedBy.eq_none (h : p.OwnedBy owner key) {model : String} (hnot : ∀ o, p.resolverKey? model o ≠ some key) :
    owner model = none := by
  cases howner : owner model with
  | none => rfl
  | some o => exact absurd ((h.found model o fun hsync => h.offered model (hsync ▸ howner)).2 howner) (hnot o)

/-- A root field that no model has is nobody's. -/
theorem ownedBy_none (hp : p.Grounded) (h : ∀ m ∈ p.models.values, key ∉ m.rootFields p.config.usesSync) :
    p.OwnedBy (fun _ => none) key := by
  refine ⟨fun model o ho => ⟨fun hfound => ?_, nofun⟩, nofun⟩
  obtain ⟨n, hvalue, -, -, -, hroot⟩ := mem_rootFields_of_resolverKey? hp ho hfound
  exact absurd hroot (h n hvalue)

/-- No model in a database gives an operation this root field, be the operation offered or not. -/
def ClearOfSql (p : Project) (key : ResolverKey) : Prop :=
  ∀ model, p.isSqlModel model = true → ∀ o, p.resolverKey? model o ≠ some key

/-- Where all models are in tables, there is nothing to be clear of. -/
theorem clearOfSql_of_tables (h : ∀ model, p.isSqlModel model = false) (key : ResolverKey) : p.ClearOfSql key := by
  intro model hsql
  rw [h model] at hsql
  cases hsql

/-- No two operations that are offered have one root field, so only sync that is not offered can be in the way. -/
theorem clearOfSql_of_sync (hp : p.Grounded)
    (hn : (p.models.values.flatMap (·.rootFields p.config.usesSync)).Nodup) {m : Model} (hm : m ∈ p.models.values)
    (htable : p.isSqlModel m.name = false) {o : Operation} (ho : o ∈ p.operations m) (hkey : m.key? o = some key)
    (hsync : ∀ model, p.resolverKey? model .sync = some key → p.config.usesSync = true) : p.ClearOfSql key := by
  have hroot : key ∈ m.rootFields p.config.usesSync := by
    rw [← operations_keys]
    exact List.mem_filterMap.2 ⟨o, ho, hkey⟩
  intro model hsql o' hfound
  have hne : model ≠ m.name := by
    rintro rfl
    rw [htable] at hsql
    cases hsql
  refine foreign_of_nodup hp hn hm hroot hne o' (fun hoffered => hsync model ?_) hfound
  rw [← hoffered]
  exact hfound

/-- Only the queries of a model in a table can meet an operation of another model that is not offered. -/
theorem clearOfSql_of_mutation (hp : p.Grounded)
    (hn : (p.models.values.flatMap (·.rootFields p.config.usesSync)).Nodup) {m : Model} (hm : m ∈ p.models.values)
    (htable : p.isSqlModel m.name = false) {o : Operation} (ho : o ∈ p.operations m) (hmutation : o.isMutation = true)
    (hkey : m.key? o = some key) : p.ClearOfSql key := by
  refine clearOfSql_of_sync hp hn hm htable ho hkey fun model hfound => ?_
  -- sync is a query, and the root field is one of mutations
  obtain ⟨n, -, hfield⟩ := Option.bind_eq_some_iff.1 hfound
  obtain ⟨field, -, rfl⟩ := Option.map_eq_some_iff.1 hkey
  obtain ⟨other, -, hother⟩ := Option.map_eq_some_iff.1 hfield
  have hroots : ∀ o : Operation, o.isMutation = true → Operation.sync.rootType ≠ o.rootType := by
    intro o
    cases o <;> decide
  exact absurd (congrArg ResolverKey.typeName hother) (hroots o hmutation)

/-! ## plans, by owner -/

theorem linesPlan_lines (h : p.OwnedBy owner key) (model : String) {entries : List (Operation × List String)}
    (hentries : ∀ e ∈ entries, e.1 ≠ .sync) :
    (p.linesPlan model entries).filterMap (Action.linesFor? key) =
      entries.filterMap fun e => if owner model = some e.1 then some e.2 else none := by
  rw [linesPlan, List.filterMap_flatMap, List.filterMap_eq_flatMap_toList]
  refine List.flatMap_congr fun e he => ?_
  have hfound := h.found model e.1 fun hsync => absurd hsync (hentries e he)
  cases hkey : p.resolverKey? model e.1 with
  | none =>
    rw [hkey] at hfound
    simp [← hfound]
  | some other =>
    rw [hkey, Option.some.injEq] at hfound
    by_cases heq : other = key
    · simp [Action.linesFor?, heq, hfound.1 heq]
    · have hnot : owner model ≠ some e.1 := fun howner => heq (hfound.2 howner)
      simp [Action.linesFor?, heq, hnot]

theorem linesPlan_lines_of_foreign {model : String} (hnot : ∀ o, p.resolverKey? model o ≠ some key)
    (entries : List (Operation × List String)) : (p.linesPlan model entries).filterMap (Action.linesFor? key) = [] := by
  refine List.filterMap_eq_nil_iff.2 fun a ha => ?_
  obtain ⟨e, -, other, hother, rfl⟩ := mem_linesPlan.1 ha
  refine if_neg ?_
  rintro rfl
  exact hnot e.1 hother

theorem syncPlan_entries (h : p.OwnedBy owner key) (model name : String) (k : Key) :
    (p.syncPlan model name k).filterMap (Action.entryFor? key) =
      if owner model = some .sync then [⟨name, k⟩] else [] := by
  unfold syncPlan
  cases hused : p.config.usesSync with
  | false =>
    have hnot : owner model ≠ some .sync := by
      intro howner
      rw [h.offered model howner] at hused
      cases hused
    simp [hnot]
  | true =>
    have hfound := h.found model .sync fun _ => hused
    cases hkey : p.resolverKey? model .sync with
    | none =>
      rw [hkey] at hfound
      simp [← hfound]
    | some other =>
      rw [hkey, Option.some.injEq] at hfound
      by_cases heq : other = key
      · simp [Action.entryFor?, heq, hfound.1 heq]
      · have hnot : owner model ≠ some .sync := fun howner => heq (hfound.2 howner)
        simp [Action.entryFor?, heq, hnot]

theorem entries_linesPlan (model : String) (entries : List (Operation × List String)) :
    (p.linesPlan model entries).filterMap (Action.entryFor? key) = [] :=
  filterMap_linesPlan (fun _ _ => rfl) model entries

theorem lines_syncPlan (model name : String) (k : Key) :
    (p.syncPlan model name k).filterMap (Action.linesFor? key) = [] :=
  filterMap_syncPlan (fun _ _ _ => rfl) model name k

theorem plain_modelPlan {stored : String → String} {m : Model} {a : Action} (ha : a ∈ p.modelPlan stored m) :
    a.plain = true := by
  obtain ⟨-, -, ⟨-, -, rfl | ⟨-, -, -, -, rfl⟩⟩ | ⟨-, rfl | ⟨-, -, -, -, rfl | rfl⟩⟩⟩ := mem_modelPlan.1 ha <;> rfl

theorem plain_queryPlan {stored : String → String} {i : Index} {a : Action} (ha : a ∈ p.queryPlan stored i) :
    a.plain = true := by
  obtain ⟨-, -, rfl | ⟨-, rfl⟩⟩ := mem_queryPlan.1 ha <;> rfl

theorem plain_sqlFieldPlan {f : SqlField} {a : Action} (ha : a ∈ p.sqlFieldPlan f) : a.plain = true := by
  obtain ⟨-, -, rfl⟩ | rfl := mem_sqlFieldPlan.1 ha <;> rfl

theorem guardedMutations_eq (i : Index) :
    guardedMutations i =
      if i.key.isComposite then
        [(.create, [mergeText, i.validateText "create" "creating", i.key.ensureText true]),
          (.update, [mergeText, i.validateText "update" "updating", i.key.ensureText true]),
          (.delete, [mergeText, i.key.ensureText false])]
      else [] := by
  unfold guardedMutations guardedMutation indexChecks
  simp only [List.all_cons, List.all_nil, isEmpty_validateIndexTemplate, isEmpty_ensureCompositeTemplate]
  cases h : i.key.isComposite with
  | false => rfl
  | true =>
    simp only [mergeTemplate_eq, validateIndexTemplate_eq h, ensureCompositeTemplate_eq h]
    rfl

theorem primaryKeyPlan_of_table {k : PrimaryKey} (hsql : p.isSqlModel k.model = false) :
    p.primaryKeyPlan k = .changeTable k.model (.replaceKey k.key.elements (k.key.attributes p.doc)) ::
      (p.linesPlan k.model (p.keyedOperations k) ++ p.syncPlan k.model primaryKeySyncName k.key) := by
  simp [primaryKeyPlan, hsql]

theorem indexPlan_of_table {stored : String → String} {i : Index} (hsql : p.isSqlModel i.model = false) :
    p.indexPlan stored i = .changeTable i.model (p.indexChange i) ::
      (p.linesPlan i.model (guardedMutations i) ++ (p.queryPlan stored i ++ p.syncPlan i.model i.name i.key)) := by
  simp [indexPlan, hsql]

theorem primaryKeyPlan_lines (h : p.OwnedBy owner key) (hclear : p.ClearOfSql key) (k : PrimaryKey) :
    (p.primaryKeyPlan k).filterMap (Action.linesFor? key) =
      ((owner k.model).filter (· ≠ .sync)).toList.map (p.keyTexts k.key) := by
  cases hsql : p.isSqlModel k.model with
  | true =>
    have hnot := hclear k.model hsql
    rw [primaryKeyPlan, if_pos hsql, linesPlan_lines_of_foreign hnot, h.eq_none hnot]
    rfl
  | false =>
    have hkeyed : p.keyedOperations k =
        [Operation.get, .list, .create, .update, .delete].map fun o => (o, p.keyTexts k.key o) := by
      simp [keyedOperations, hsql, keyLines_eq]
    have hentries : ∀ e ∈ p.keyedOperations k, e.1 ≠ .sync := by
      rw [hkeyed]
      simp
    rw [primaryKeyPlan_of_table hsql, List.filterMap_cons_none rfl, List.filterMap_append, lines_syncPlan,
      linesPlan_lines h _ hentries, hkeyed]
    cases owner k.model with
    | none => rfl
    | some o => cases o <;> rfl

theorem primaryKeyPlan_entries (h : p.OwnedBy owner key) (hclear : p.ClearOfSql key) (k : PrimaryKey) :
    (p.primaryKeyPlan k).filterMap (Action.entryFor? key) =
      if owner k.model = some .sync then [⟨primaryKeySyncName, k.key⟩] else [] := by
  cases hsql : p.isSqlModel k.model with
  | true =>
    rw [primaryKeyPlan, if_pos hsql, entries_linesPlan, h.eq_none (hclear k.model hsql)]
    rfl
  | false =>
    rw [primaryKeyPlan_of_table hsql, List.filterMap_cons_none rfl, List.filterMap_append, entries_linesPlan,
      syncPlan_entries h, List.nil_append]

theorem indexPlan_lines (h : p.OwnedBy owner key) (hclear : p.ClearOfSql key) (stored : String → String) (i : Index) :
    (p.indexPlan stored i).filterMap (Action.linesFor? key) =
      if i.key.isComposite then ((owner i.model).bind i.guard?).toList else [] := by
  cases hsql : p.isSqlModel i.model with
  | true =>
    rw [indexPlan, if_pos hsql, Action.lines_of_plain fun _ ha => plain_queryPlan ha,
      h.eq_none (hclear i.model hsql)]
    exact (ite_self _).symm
  | false =>
    have hentries : ∀ e ∈ guardedMutations i, e.1 ≠ .sync := by
      rw [guardedMutations_eq]
      split <;> simp
    rw [indexPlan_of_table hsql, List.filterMap_cons_none rfl, List.filterMap_append, List.filterMap_append,
      lines_syncPlan, Action.lines_of_plain fun _ ha => plain_queryPlan ha, linesPlan_lines h _ hentries,
      guardedMutations_eq]
    cases i.key.isComposite with
    | false => rfl
    | true =>
      cases owner i.model with
      | none => rfl
      | some o => cases o <;> rfl

theorem indexPlan_entries (h : p.OwnedBy owner key) (hclear : p.ClearOfSql key) (stored : String → String) (i : Index) :
    (p.indexPlan stored i).filterMap (Action.entryFor? key) =
      if owner i.model = some .sync then [⟨i.name, i.key⟩] else [] := by
  cases hsql : p.isSqlModel i.model with
  | true =>
    rw [indexPlan, if_pos hsql, Action.entries_of_plain fun _ ha => plain_queryPlan ha,
      h.eq_none (hclear i.model hsql)]
    rfl
  | false =>
    rw [indexPlan_of_table hsql, List.filterMap_cons_none rfl, List.filterMap_append, List.filterMap_append,
      entries_linesPlan, Action.entries_of_plain fun _ ha => plain_queryPlan ha, syncPlan_entries h]
    rfl

/-! ## the whole plan -/

/-- The plan for all that comes after the models. -/
def laterPlan (p : Project) (stored : String → String) (d : Declarations) : List Action :=
  d.primaryKeys.flatMap p.primaryKeyPlan ++ d.indexes.flatMap (p.indexPlan stored) ++ d.sqlFields.flatMap p.sqlFieldPlan

theorem plain_models {stored : String → String} :
    ∀ a ∈ p.models.values.flatMap (p.modelPlan stored), a.plain = true := by
  intro a ha
  obtain ⟨m, -, ha⟩ := List.mem_flatMap.1 ha
  exact plain_modelPlan ha

theorem plain_sqlFields {fields : List SqlField} : ∀ a ∈ fields.flatMap p.sqlFieldPlan, a.plain = true := by
  intro a ha
  obtain ⟨f, -, ha⟩ := List.mem_flatMap.1 ha
  exact plain_sqlFieldPlan ha

theorem laterPlan_lines (h : p.OwnedBy owner key) (hclear : p.ClearOfSql key) (stored : String → String)
    (d : Declarations) :
    (p.laterPlan stored d).filterMap (Action.linesFor? key) =
      d.primaryKeys.flatMap (fun k => ((owner k.model).filter (· ≠ .sync)).toList.map (p.keyTexts k.key)) ++
        d.indexes.flatMap fun i => if i.key.isComposite then ((owner i.model).bind i.guard?).toList else [] := by
  simp only [laterPlan, List.filterMap_append, List.filterMap_flatMap, primaryKeyPlan_lines h hclear,
    indexPlan_lines h hclear stored]
  rw [← List.filterMap_flatMap, Action.lines_of_plain plain_sqlFields, List.append_nil]

theorem laterPlan_entries (h : p.OwnedBy owner key) (hclear : p.ClearOfSql key) (stored : String → String)
    (d : Declarations) :
    (p.laterPlan stored d).filterMap (Action.entryFor? key) =
      d.primaryKeys.flatMap (fun k => if owner k.model = some .sync then [⟨primaryKeySyncName, k.key⟩] else []) ++
        d.indexes.flatMap fun i => if owner i.model = some .sync then [⟨i.name, i.key⟩] else [] := by
  simp only [laterPlan, List.filterMap_append, List.filterMap_flatMap, primaryKeyPlan_entries h hclear,
    indexPlan_entries h hclear stored]
  rw [← List.filterMap_flatMap, Action.entries_of_plain plain_sqlFields, List.append_nil]

/-! ## resolvers as they are added -/

theorem preAuth_operationResolver (m : Model) (o : Operation) (dataSource request : String) :
    (p.operationResolver m o dataSource request).slots.preAuth = [] := by
  have hfold : ∀ (templates : List String) (r : Resolver),
      (templates.foldl (fun r t => r.addRequest .init t) r).slots.preAuth = r.slots.preAuth := by
    intro templates
    induction templates with
    | nil => exact fun r => rfl
    | cons t templates ih => exact fun r => ih (r.addRequest .init t)
  exact hfold _ _

theorem register_mem_models (hp : p.Grounded) (stored : String → String) {m : Model} (hm : m ∈ p.models.values)
    (hsql : p.isSqlModel m.name = false) {o : Operation} (ho : o ∈ p.operations m) (hkey : m.key? o = some key) :
    ∃ r : Resolver, r.slots.preAuth = [] ∧ .register key r ∈ p.models.values.flatMap (p.modelPlan stored) := by
  obtain ⟨s, hs⟩ := Option.isSome_iff_exists.1 (hp.sourced _ (hp.mem_keys hm))
  have hprovisioned : s.provisioning?.isNone = false := by rw [← isSqlModel_eq hs, hsql]
  obtain ⟨provisioning, hprovisioning⟩ : ∃ provisioning, s.provisioning? = some provisioning := by
    simpa [Option.isNone_eq_false_iff, Option.isSome_iff_exists] using hprovisioned
  refine ⟨p.operationResolver m o (tableId m.name) (itemRequest o), preAuth_operationResolver _ _ _ _,
    List.mem_flatMap.2 ⟨m, hm, mem_modelPlan.2 ⟨s, hs, .inl ⟨provisioning, hprovisioning, .inr ?_⟩⟩⟩⟩
  exact ⟨o, ho, key, hkey, rfl⟩

theorem register_mem_query (stored : String → String) {i : Index} {field : String} (hfield : i.queryField = some field)
    : .register ⟨queryType, field⟩ (p.queryResolver stored i field) ∈ p.indexPlan stored i :=
  mem_indexPlan.2 (.inl (mem_queryPlan.2 ⟨field, hfield, .inl rfl⟩))

end Project

/-! ## the templates of one operation -/

/-- What only the things of one model contribute. -/
theorem flatMap_only {α β : Type} (f : α → String) (g : α → Option Operation → List β) (hg : ∀ x, g x none = [])
    (model : String) (o : Operation) (l : List α) :
    l.flatMap (fun x => g x (only model o (f x))) = (l.filter (f · == model)).flatMap fun x => g x (some o) := by
  induction l with
  | nil => rfl
  | cons x l ih =>
    by_cases hx : f x = model
    · simp [only, hx] at ih ⊢
      exact ih
    · simp [only, hx, hg] at ih ⊢
      exact ih

namespace Project

/-- What stands before authorization in an operation of a model in a table, given the primary key and the indexes. -/
def preAuth (p : Project) (k : Option PrimaryKey) (indexes : List Index) : Operation → List SlotTemplate
  | .sync => SlotTemplate.choice (k.toList.map (⟨"dbTable", ·.key⟩) ++ indexes.map fun i => ⟨i.name, i.key⟩)
  | o => k.toList.map (fun k => .ofLines (p.keyTexts k.key o)) ++
      (indexes.filter (2 ≤ ·.key.sort.length)).filterMap fun i => (i.guard? o).map .ofLines

variable {p : Project}

section Owned

variable {d : Declarations} (hd : d.KeysSound p.doc) (hclear : p.ClearOfSql key) (stored : String → String)
  {model : String} {o : Operation} (h : p.OwnedBy (only model o) key)
include hd hclear h

theorem lines_of_operation :
    (p.laterPlan stored d).filterMap (Action.linesFor? key) =
      (if o = .sync then [] else (d.primaryKey? model).toList.map fun k => p.keyTexts k.key o) ++
        ((d.indexesOf model).filter (·.key.isComposite)).filterMap (·.guard? o) := by
  rw [laterPlan_lines h hclear]
  congr 1
  · rw [flatMap_only PrimaryKey.model (fun k w => (w.filter (· ≠ .sync)).toList.map (p.keyTexts k.key)) (fun _ => rfl),
      hd.filter_eq]
    by_cases ho : o = .sync
    · simp [ho]
    · have hkept : (some o).filter (· ≠ .sync) = some o := by simp [Option.filter, ho]
      rw [if_neg ho, List.map_eq_flatMap, hkept]
      rfl
  · rw [flatMap_only Index.model (fun i w => if i.key.isComposite then (w.bind i.guard?).toList else [])
      (fun _ => ite_self _), List.filterMap_filter, List.filterMap_eq_flatMap_toList]
    refine List.flatMap_congr fun i _ => ?_
    cases i.key.isComposite <;> rfl

theorem entries_of_operation :
    (p.laterPlan stored d).filterMap (Action.entryFor? key) =
      if o = .sync then (d.primaryKey? model).toList.map (⟨primaryKeySyncName, ·.key⟩) ++
        (d.indexesOf model).map fun i => ⟨i.name, i.key⟩
      else [] := by
  rw [laterPlan_entries h hclear,
    flatMap_only PrimaryKey.model (fun k w => if w = some .sync then [SyncEntry.mk primaryKeySyncName k.key] else [])
      (fun _ => rfl), hd.filter_eq,
    flatMap_only Index.model (fun i w => if w = some .sync then [SyncEntry.mk i.name i.key] else []) fun _ => rfl]
  by_cases ho : o = .sync
  · simp [ho, ← List.map_eq_flatMap, Declarations.indexesOf]
  · simp [ho]

theorem templates_of_operation :
    ((p.laterPlan stored d).filterMap (Action.linesFor? key)).map SlotTemplate.ofLines ++
        SlotTemplate.choice ((p.laterPlan stored d).filterMap (Action.entryFor? key)) =
      p.preAuth (d.primaryKey? model) (d.indexesOf model) o := by
  rw [lines_of_operation hd hclear stored h, entries_of_operation hd hclear stored h]
  cases o with
  | sync => simp [preAuth, Index.guard?, primaryKeySyncName]
  | _ => simp [preAuth, SlotTemplate.choice, List.map_filterMap, Key.isComposite, Function.comp_def]

end Owned

/-- The slot of an operation of a model in a table, when no model in a database has its root field too. -/
theorem preAuth_of_tableOperation {d : Declarations} (hp : p.Grounded) (hd : d.KeysSound p.doc)
    (hapart : (p.models.values.flatMap (·.rootFields p.config.usesSync)).Nodup) (stored : String → String)
    {out : Output} (hsync : out.syncKeys = .empty) (hfree : out.Free (p.plan stored d)) {m : Model}
    (hm : m ∈ p.models.values) (htable : p.isSqlModel m.name = false) {o : Operation} (ho : o ∈ p.operations m)
    (hkey : m.key? o = some key) (hclear : p.ClearOfSql key) :
    Registry.preAuth? (out.after (p.plan stored d)).finish.registry key =
      some (p.preAuth (d.primaryKey? m.name) (d.indexesOf m.name) o) := by
  have howned : p.OwnedBy (only m.name o) key := ownedBy_operation hp hapart hm ho hkey
  have hplan : p.plan stored d = p.models.values.flatMap (p.modelPlan stored) ++ p.laterPlan stored d := rfl
  obtain ⟨r, hr, hmem⟩ := register_mem_models hp stored hm htable ho hkey
  rw [hplan] at hfree ⊢
  rw [Output.preAuth_of_registered hmem hfree (Action.lines_of_plain plain_models key) hsync, hr, List.filterMap_append,
    Action.entries_of_plain plain_models, List.nil_append, List.nil_append,
    templates_of_operation hd hclear stored howned]

theorem preAuth_of_operation {d : Declarations} (hp : p.Grounded) (hd : d.KeysSound p.doc)
    (hmodels : p.models = d.models) (hsql : ∀ model, p.isSqlModel model = false)
    (hn : (d.rootFields p.config.usesSync).Nodup) (stored : String → String) {out : Output}
    (hsync : out.syncKeys = .empty) (hfree : out.Free (p.plan stored d)) {m : Model} (hm : m ∈ p.models.values)
    {o : Operation} (ho : o ∈ p.operations m) (hkey : m.key? o = some key) :
    Registry.preAuth? (out.after (p.plan stored d)).finish.registry key =
      some (p.preAuth (d.primaryKey? m.name) (d.indexesOf m.name) o) := by
  have hapart : (p.models.values.flatMap (·.rootFields p.config.usesSync)).Nodup := by
    rw [hmodels]
    exact (List.nodup_append.1 (List.nodup_append.1 hn).1).1
  exact preAuth_of_tableOperation hp hd hapart stored hsync hfree hm (hsql _) ho hkey (clearOfSql_of_tables hsql key)

/-- Nobody's root fields get nothing. -/
theorem plan_of_nobody (h : p.OwnedBy (fun _ => none) key) (hsql : ∀ model, p.isSqlModel model = false)
    (stored : String → String) (d : Declarations) :
    (p.plan stored d).filterMap (Action.linesFor? key) = [] ∧
      (p.plan stored d).filterMap (Action.entryFor? key) = [] := by
  have hplan : p.plan stored d = p.models.values.flatMap (p.modelPlan stored) ++ p.laterPlan stored d := rfl
  have hclear := clearOfSql_of_tables hsql key
  rw [hplan, List.filterMap_append, List.filterMap_append, Action.lines_of_plain plain_models,
    Action.entries_of_plain plain_models, laterPlan_lines h hclear, laterPlan_entries h hclear]
  simp

theorem preAuth_of_nobody (h : p.OwnedBy (fun _ => none) key) (hsql : ∀ model, p.isSqlModel model = false)
    (stored : String → String) {d : Declarations} {out : Output} (hsync : out.syncKeys = .empty)
    (hfree : out.Free (p.plan stored d)) {r : Resolver} (hr : r.slots.preAuth = [])
    (hmem : .register key r ∈ p.plan stored d) :
    Registry.preAuth? (out.after (p.plan stored d)).finish.registry key = some [] := by
  obtain ⟨hlines, hentries⟩ := plan_of_nobody h hsql stored d
  rw [← List.append_nil (p.plan stored d)] at hfree ⊢
  rw [Output.preAuth_of_registered hmem hfree hlines hsync, hr, List.append_nil, hentries]
  rfl

end Project

/-! ## documents -/

/-- A template with a request side only, which ends in the given way. -/
def SlotTemplate.EndsWith (suffix : String) (t : SlotTemplate) : Prop := ∃ text, t = ⟨some (text ++ suffix), none⟩

theorem SlotTemplate.endsWith_ofLines (lines : List String) : (ofLines lines).EndsWith "\n\x7b\x7d" :=
  ⟨joinWith "\n" lines, rfl⟩

theorem SlotTemplate.endsWith_ofEntries (entries : List SyncEntry) : (ofEntries entries).EndsWith "\n" :=
  ⟨_, rfl⟩

theorem endsWith_of_mem_preAuth {p : Project} {k : Option PrimaryKey} {indexes : List Index} {o : Operation}
    {t : SlotTemplate} (ht : t ∈ p.preAuth k indexes o) :
    t.EndsWith (if o = .sync then "\n" else "\n\x7b\x7d") := by
  have hlines : ∀ o, t ∈ k.toList.map (fun k => SlotTemplate.ofLines (p.keyTexts k.key o)) ++
      (indexes.filter (2 ≤ ·.key.sort.length)).filterMap (fun i => (i.guard? o).map .ofLines) →
      t.EndsWith "\n\x7b\x7d" := by
    intro o ht
    rcases List.mem_append.1 ht with ht | ht
    · obtain ⟨k, -, rfl⟩ := List.mem_map.1 ht
      exact SlotTemplate.endsWith_ofLines _
    · obtain ⟨i, -, hi⟩ := List.mem_filterMap.1 ht
      obtain ⟨lines, -, rfl⟩ := Option.map_eq_some_iff.1 hi
      exact SlotTemplate.endsWith_ofLines _
  cases o with
  | sync =>
    have hchoice : t ∈ SlotTemplate.choice (k.toList.map (⟨primaryKeySyncName, ·.key⟩) ++
        indexes.map fun i => ⟨i.name, i.key⟩) := ht
    unfold SlotTemplate.choice at hchoice
    split at hchoice
    · cases hchoice
    · rw [List.mem_singleton.1 hchoice]
      exact SlotTemplate.endsWith_ofEntries _
  | _ => exact hlines _ ht

section Document

variable {doc : Document} {config : Config} {d : Declarations} {api : Api}

theorem isSqlModel_of_tables (h : ∀ model ∈ doc.modelNames, (config.strategyOf model).isSql = false) (model : String) :
    (projectOf config doc d).isSqlModel model = false := by
  have hget : (config.sourcesOf doc).get? model =
      if model ∈ doc.modelNames then some (config.strategyOf model) else none := OrderedMap.get?_ofList_map _ _ _
  rw [Project.isSqlModel, DataSources.isSqlModel, projectOf, hget]
  by_cases hmodel : model ∈ doc.modelNames
  · simp [hmodel, h model hmodel]
  · simp [hmodel]

/-- **The slot before authorization, when all models are in tables.** In every operation of a model but sync, the slot
holds the template of the primary key, if there is one, and in mutations the templates of the indexes with composite
sort keys behind it, in order. In sync queries all keys share one template; where there are no keys, there is none.
Queries on indexes and fields with statements hold none, and there are no other resolvers. -/
theorem compiled_preAuth (h : compileDocument doc config = .ok api)
    (hd : collect doc config (config.sourcesOf doc) = .ok d)
    (htables : ∀ model ∈ doc.modelNames, (config.strategyOf model).isSql = false) :
    let p := projectOf config doc d
    (∀ m ∈ d.models.values, ∀ o ∈ p.operations m, ∀ key, m.key? o = some key →
      Registry.preAuth? api.registry key = some (p.preAuth (d.primaryKey? m.name) (d.indexesOf m.name) o) ∧
      ∀ t ∈ p.preAuth (d.primaryKey? m.name) (d.indexesOf m.name) o,
        t.EndsWith (if o = .sync then "\n" else "\n\x7b\x7d")) ∧
    (∀ i ∈ d.indexes, ∀ field, i.queryField = some field →
      Registry.preAuth? api.registry ⟨queryType, field⟩ = some []) ∧
    (∀ f ∈ d.sqlFields, Registry.preAuth? api.registry f.key = some []) ∧
    api.registry.keys = d.rootFields config.usesSync := by
  intro p
  obtain ⟨hu, -⟩ := collect_of_compileDocument h
  obtain ⟨⟨-, hfree⟩, rfl⟩ := (compileDocument_eq_ok hu hd).1 h
  have hp : p.Grounded := projectOf_grounded hd
  have hsql : ∀ model, p.isSqlModel model = false := isSqlModel_of_tables htables
  have hfields : (p.plan d.renames.storedModel d).filterMap Action.key? = d.rootFields config.usesSync :=
    Project.plan_keys hp _ rfl
  have hn : (d.rootFields config.usesSync).Nodup := by
    rw [← hfields]
    exact (List.nodup_append.1 hfree).2.1
  -- the fields of models are apart from those of queries and statements
  have hnobody : ∀ key, key ∈ d.indexes.filterMap (·.queryField.map (ResolverKey.mk queryType)) ++
      d.sqlFields.map (·.key) → p.OwnedBy (fun _ => none) key := by
    intro key hkey
    refine Project.ownedBy_none hp fun m hm hroot => ?_
    rw [Declarations.rootFields, List.append_assoc] at hn
    exact (List.nodup_append.1 hn).2.2 key (List.mem_flatMap.2 ⟨m, hm, hroot⟩) key hkey rfl
  refine ⟨fun m hm o ho key hkey => ⟨?_, ?_⟩, fun i hi field hfield => ?_, fun f hf => ?_, ?_⟩
  · exact Project.preAuth_of_operation hp (collect_keysSound hd) rfl hsql hn _ rfl hfree hm ho hkey
  · exact fun t ht => endsWith_of_mem_preAuth ht
  · have hmem : .register ⟨queryType, field⟩ (p.queryResolver d.renames.storedModel i field) ∈
        p.plan d.renames.storedModel d :=
      List.mem_append_right _ (List.mem_append_left _ (List.mem_append_right _
        (List.mem_flatMap.2 ⟨i, hi, Project.register_mem_query _ hfield⟩)))
    have howned := hnobody ⟨queryType, field⟩
      (List.mem_append_left _ (List.mem_filterMap.2 ⟨i, hi, by rw [hfield]; rfl⟩))
    exact Project.preAuth_of_nobody howned hsql _ rfl hfree rfl hmem
  · have hmem : .register f.key (p.statementResolver f) ∈ p.plan d.renames.storedModel d :=
      List.mem_append_right _ (List.mem_append_right _
        (List.mem_flatMap.2 ⟨f, hf, List.mem_append_right _ (List.mem_singleton.2 rfl)⟩))
    have howned := hnobody f.key (List.mem_append_right _ (List.mem_map_of_mem hf))
    exact Project.preAuth_of_nobody howned hsql _ rfl hfree rfl hmem
  · rw [Output.keys_finish, Output.keys_after _ _ hfree, hfields]
    rfl

end Document

/-- Entries of a diary with a primary key, one index with a composite sort key and one without, and a count of them. -/
def diary : Document := ⟨[
  .type ⟨⟨1, 1⟩, "Entry", false, .object [
    ⟨"author", [], .named "ID" false, [⟨"primaryKey", ⟨2, 15⟩, [("sortKeyFields", .list [.str "day"])]⟩]⟩,
    ⟨"day", [], .named "Int" false, [⟨"index", ⟨3, 13⟩, [("name", .str "byDay"), ("queryField", .str "entriesByDay"),
      ("sortKeyFields", .list [.str "place", .str "title"])]⟩]⟩,
    ⟨"place", [], .named "String" false, [⟨"index", ⟨4, 18⟩, [("name", .str "byPlace")]⟩]⟩,
    ⟨"title", [], .named "String" false, []⟩], [⟨"model", ⟨1, 12⟩, []⟩]⟩,
  .type ⟨⟨7, 1⟩, "Query", false, .object [
    ⟨"countEntries", [], .named "Int" true, [⟨"sql", ⟨8, 21⟩, [("statement", .str "SELECT COUNT(*) FROM Entry")]⟩]⟩],
    []⟩]⟩

/-- Sync is used, and entries are counted in a database. -/
def diaryConfig : Config :=
  { sync := some {}
    customSql := [⟨.query, "countEntries",
      .mysql ⟨"db", ⟨"host", "port", "user", "password", "name"⟩, none, .empty, none⟩⟩] }

theorem diary_preAuth : ∃ d api, compileDocument diary diaryConfig = .ok api ∧
    collect diary diaryConfig (diaryConfig.sourcesOf diary) = .ok d ∧
    (∀ model ∈ diary.modelNames, (diaryConfig.strategyOf model).isSql = false) ∧
    Registry.preAuth? api.registry ⟨"Mutation", "deleteEntry"⟩ = some [
      ⟨some (joinWith "\n" [
        "## [Start] Merge default values and inputs. **",
        "#set( $mergedValues = $util.defaultIfNull($ctx.stash.defaultValues, \x7b\x7d) )",
        "$util.qr($mergedValues.putAll($util.defaultIfNull($ctx.args.input, \x7b\x7d)))",
        "## [End] Merge default values and inputs. **",
        "## [Start] Set the primary key. **",
        "$util.qr($ctx.stash.metadata.put(\"modelObjectKey\", \x7b",
        "  \"author\": $util.dynamodb.toDynamoDB($mergedValues.author),",
        "  \"day\": $util.dynamodb.toDynamoDB($mergedValues.day)",
        "\x7d))",
        "## [End] Set the primary key. **",
        "\x7b\x7d"]), none⟩,
      ⟨some (joinWith "\n" [
        "## [Start] Merge default values and inputs. **",
        "#set( $mergedValues = $util.defaultIfNull($ctx.stash.defaultValues, \x7b\x7d) )",
        "$util.qr($mergedValues.putAll($util.defaultIfNull($ctx.args.input, \x7b\x7d)))",
        "## [End] Merge default values and inputs. **",
        "#if( $util.isNull($ctx.stash.metadata.dynamodbNameOverrideMap) )",
        "  $util.qr($ctx.stash.metadata.put(\"dynamodbNameOverrideMap\", \x7b 'place#title': \"placeTitle\" \x7d))",
        "#else",
        "  $util.qr($ctx.stash.metadata.dynamodbNameOverrideMap.put('place#title', \"placeTitle\"))",
        "#end",
        "$util.qr($ctx.args.input.put('place#title',\"$\x7bmergedValues.place\x7d#$\x7bmergedValues.title\x7d\"))",
        "\x7b\x7d"]), none⟩] ∧
    Registry.preAuth? api.registry ⟨"Query", "syncEntries"⟩ = some [
      ⟨some (syncText (joinWith "\n" [
        "## [Start] Set query expression for @key. **",
        "$util.qr($QueryMap.put('author+day' , 'dbTable'))",
        "$util.qr($PkMap.put('author' , 'dbTable'))",
        "$util.qr($SkMap.put(\"dbTable\", [\"day\"]))",
        "## [End] Set query expression for @key. **",
        "## [Start] Set query expression for @key. **",
        "$util.qr($QueryMap.put('day+place+title' , 'byDay'))",
        "$util.qr($PkMap.put('day' , 'byDay'))",
        "$util.qr($SkMap.put(\"byDay\", [\"place\", \"title\"]))",
        "## [End] Set query expression for @key. **",
        "## [Start] Set query expression for @key. **",
        "$util.qr($QueryMap.put('place' , 'byPlace'))",
        "$util.qr($PkMap.put('place' , 'byPlace'))",
        "$util.qr($SkMap.put(\"byPlace\", []))",
        "## [End] Set query expression for @key. **"])), none⟩] ∧
    Registry.preAuth? api.registry ⟨"Query", "entriesByDay"⟩ = some [] ∧
    Registry.preAuth? api.registry ⟨"Query", "countEntries"⟩ = some [] := by
  have hsome : (compileDocument diary diaryConfig).toOption.isSome = true := by decide +kernel
  obtain ⟨api, hapi⟩ := Option.isSome_iff_exists.1 hsome
  have h : compileDocument diary diaryConfig = .ok api := ok_of_toOption hapi
  have htables : ∀ model ∈ diary.modelNames, (diaryConfig.strategyOf model).isSql = false := by decide
  obtain ⟨hmodels, hqueries, hstatements, -⟩ := compiled_preAuth h rfl htables
  have hdelete := (hmodels _ List.mem_cons_self .delete (by decide) _ rfl).1
  have hsync := (hmodels _ List.mem_cons_self .sync (by decide) _ rfl).1
  exact ⟨_, api, h, rfl, htables, hdelete.trans (by decide +kernel),
    hsync.trans (congrArg (fun text => some [SlotTemplate.mk (some (syncText text)) none]) (by decide +kernel)),
    hqueries _ List.mem_cons_self _ rfl, hstatements _ List.mem_cons_self⟩

end ModelApi
