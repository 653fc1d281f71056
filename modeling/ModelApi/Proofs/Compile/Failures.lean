import ModelApi.Proofs.Compile.RootFields

/-!
# Why a document does not compile

Steps of the build look up tables, data sources and strategies by name, and each look-up has an error of its own. None
of these errors ever comes out of a compilation, because the models were set up before. What does come out has its cause
in the document.

* `Accounts`: which resolvers a step has added when it succeeds, and which reasons it can have when it fails;
* `build_accounts`: the build fails for a look-up, an index without a name, a field with a statement but no database, or
  a root field that is asked for twice;
* `compileDocument_failures`: look-ups are no reason, and all others are seen in the document.
-/

namespace ModelApi

open Schema (Document queryType)

/-! ## steps that account for what they do -/

section Outcome

variable {α β : Type} {x : Build α} {f : α → Build β} {out out' : Output}

/-- Two steps succeed one after the other. -/
theorem ok_of_outcome_bind {b : β} (h : outcome (x >>= f) out = (.ok b, out')) :
    ∃ a mid, outcome x out = (.ok a, mid) ∧ outcome (f a) mid = (.ok b, out') := by
  rw [outcome_bind] at h
  cases hout : outcome x out with
  | mk r mid =>
    rw [hout] at h
    cases r with
    | error e => cases h
    | ok a => exact ⟨a, mid, rfl, h⟩

/-- Of two steps the first fails, or the second one does after it. -/
theorem error_of_outcome_bind {e : BuildError} (h : outcome (x >>= f) out = (.error e, out')) :
    outcome x out = (.error e, out') ∨
      ∃ a mid, outcome x out = (.ok a, mid) ∧ outcome (f a) mid = (.error e, out') := by
  rw [outcome_bind] at h
  cases hout : outcome x out with
  | mk r mid =>
    rw [hout] at h
    cases r with
    | error e' =>
      cases h
      exact .inl rfl
    | ok a => exact .inr ⟨a, mid, rfl, h⟩

end Outcome

/-- A table is looked up by its name, and the error gives that name. -/
theorem Output.table_eq_error {out : Output} {model : String} {e : BuildError} (h : out.table model = .error e) :
    e = .tableNotFound (tableId model) := by
  unfold Output.table at h
  split at h
  · cases h
  · cases h
    rfl

/-- When the step succeeds, it has added resolvers for `keys`, in order. When it fails, it has one of the `reasons`, or
some root field is asked for twice. -/
structure Accounts {α : Type} (reasons : BuildError → Prop) (keys : List ResolverKey) (x : Build α) : Prop where
  done : ∀ out a out', outcome x out = (.ok a, out') → out'.registry.keys = out.registry.keys ++ keys
  failed : ∀ out e out', outcome x out = (.error e, out') →
    reasons e ∨ ∃ key, e = .duplicateResolver key ∧ 1 < (out.registry.keys ++ keys).count key

namespace Accounts

variable {α β : Type} {reasons : BuildError → Prop} {keys more : List ResolverKey} {x : Build α}

protected theorem pure (a : α) : Accounts reasons [] (pure a : Build α) := by
  refine ⟨fun out b out' h => ?_, fun out e out' h => ?_⟩
  · cases h
    exact (List.append_nil _).symm
  · cases h

protected theorem throw {e : BuildError} (he : reasons e) : Accounts reasons keys (throw e : Build α) := by
  refine ⟨fun out a out' h => ?_, fun out e' out' h => ?_⟩
  · cases h
  · cases h
    exact .inl he

protected theorem get : Accounts reasons [] (get : Build Output) := by
  refine ⟨fun out a out' h => ?_, fun out e out' h => ?_⟩
  · cases h
    exact (List.append_nil _).symm
  · cases h

protected theorem modify {f : Output → Output} (hf : ∀ out, (f out).registry.keys = out.registry.keys) :
    Accounts reasons [] (modify f : Build Unit) := by
  refine ⟨fun out a out' h => ?_, fun out e out' h => ?_⟩
  · cases h
    rw [List.append_nil]
    exact hf out
  · cases h

/-- A plan without resolvers. -/
theorem modify_after {f : Output → Output} {plan : List Action} (hkeys : plan.filterMap Action.key? = [])
    (hf : ∀ out, f out = out.after plan) : Accounts reasons [] (modify f : Build Unit) := by
  refine .modify fun out => ?_
  rw [hf, Output.keys_after plan out (Output.free_of_noKeys hkeys), hkeys, List.append_nil]

/-- The resolvers of the first step are there when the second one starts. -/
protected theorem bind {f : α → Build β} (hx : Accounts reasons keys x) (hf : ∀ a, Accounts reasons more (f a)) :
    Accounts reasons (keys ++ more) (x >>= f) := by
  refine ⟨fun out b out' h => ?_, fun out e out' h => ?_⟩
  · obtain ⟨a, mid, hfirst, hsecond⟩ := ok_of_outcome_bind h
    rw [(hf a).done mid b out' hsecond, hx.done out a mid hfirst, List.append_assoc]
  · rcases error_of_outcome_bind h with hfirst | ⟨a, mid, hfirst, hsecond⟩
    · rcases hx.failed out e out' hfirst with hreason | ⟨key, rfl, hcount⟩
      · exact .inl hreason
      · refine .inr ⟨key, rfl, ?_⟩
        rw [← List.append_assoc, List.count_append]
        omega
    · rcases (hf a).failed mid e out' hsecond with hreason | ⟨key, rfl, hcount⟩
      · exact .inl hreason
      · rw [hx.done out a mid hfirst, List.append_assoc] at hcount
        exact .inr ⟨key, rfl, hcount⟩

theorem get_bind {f : Output → Build β} (hf : ∀ out, Accounts reasons keys (f out)) :
    Accounts reasons keys (get >>= f) := Accounts.get.bind hf

/-- A change that adds no resolver, before other steps. -/
theorem modify_bind {g : Output → Output} {f : Unit → Build β}
    (hg : ∀ out, (g out).registry.keys = out.registry.keys) (hf : Accounts reasons keys (f ())) :
    Accounts reasons keys (modify g >>= f) := (Accounts.modify hg).bind fun _ => hf

/-- A step that starts with what can be computed. -/
theorem lift_bind {r : Except BuildError α} {f : α → Build β} (hr : ∀ e, r = .error e → reasons e)
    (hf : ∀ a, r = .ok a → Accounts reasons keys (f a)) : Accounts reasons keys (liftM r >>= f) := by
  cases hc : r with
  | error e =>
    refine ⟨fun out b out' h => ?_, fun out e' out' h => ?_⟩
    · cases h
    · cases h
      exact .inl (hr e hc)
  | ok a => exact ⟨(hf a hc).done, (hf a hc).failed⟩

/-- A check before other steps. -/
theorem check_bind {c : Prop} [Decidable c] {e : BuildError} {f : Unit → Build β} (he : c → reasons e)
    (hf : Accounts reasons keys (f ())) : Accounts reasons keys (if c then throw e >>= f else f ()) := by
  by_cases h : c
  · rw [if_pos h]
    have hthrow : Accounts reasons [] (throw e : Build Unit) := .throw (he h)
    exact hthrow.bind fun _ => hf
  · rw [if_neg h]
    exact hf

/-- A step that is taken only on a condition, before others. -/
theorem ite_bind {c : Prop} [Decidable c] {y : Build Unit} {f : Unit → Build β}
    (hy : Accounts reasons keys (if c then y else Pure.pure ())) (hf : Accounts reasons more (f ())) :
    Accounts reasons (keys ++ more) (if c then y >>= f else f ()) := by
  have hboth := hy.bind fun u => (hf : Accounts reasons more (f u))
  by_cases h : c
  · rwa [if_pos h] at hboth ⊢
  · rwa [if_neg h] at hboth ⊢

protected theorem forM {γ : Type} {f : γ → Build Unit} {keys : γ → List ResolverKey} {l : List γ}
    (hf : ∀ a ∈ l, Accounts reasons (keys a) (f a)) : Accounts reasons (l.flatMap keys) (l.forM f) := by
  induction l with
  | nil => exact Accounts.pure ()
  | cons a l ih => exact (hf a List.mem_cons_self).bind fun _ => ih fun b hb => hf b (List.mem_cons_of_mem _ hb)

/-- Adding a resolver fails when the root field is answered already. -/
theorem addResolver (key : ResolverKey) (r : Resolver) : Accounts reasons [key] (addResolver key r) := by
  refine ⟨fun out a out' h => ?_, fun out e out' h => ?_⟩
  · rw [outcome_addResolver] at h
    split at h
    · cases h
    next hnew =>
      cases h
      rw [OrderedMap.contains_iff] at hnew
      exact OrderedMap.keys_insert_of_notMem _ r hnew
  · rw [outcome_addResolver] at h
    split at h
    next htaken =>
      -- once among the resolvers and once in `[key]`
      cases h
      have hcount : 0 < out.registry.keys.count key := List.count_pos_iff.2 ((OrderedMap.contains_iff _ _).1 htaken)
      refine .inr ⟨key, rfl, ?_⟩
      rw [List.count_append, List.count_singleton_self]
      omega
    · cases h

/-- Changing a table fails only when the table is missing. -/
theorem changeTable {model : String} (hmissing : reasons (.tableNotFound (tableId model))) (change : TableChange) :
    Accounts reasons [] (changeTable model change) := by
  refine ⟨fun out a out' h => ?_, fun out e out' h => ?_⟩
  · rw [outcome_changeTable] at h
    split at h
    · cases h
      exact (List.append_nil _).symm
    · cases h
  · rw [outcome_changeTable] at h
    split at h
    · cases h
    next he =>
      cases h
      rw [Output.table_eq_error he]
      exact .inl hmissing

end Accounts

/-! ## the build -/

theorem keys_ensureSqlDataSource (dbType : DbType) (out : Output) :
    (out.ensureSqlDataSource dbType).registry.keys = out.registry.keys := by
  obtain ⟨sources, heq, -⟩ := Output.ensureSqlDataSource_eq dbType out
  rw [heq]

namespace Project

variable {p : Project} {reasons : BuildError → Prop}

theorem addItemOperation_accounts (m : Model) (o : Operation) :
    Accounts reasons (m.key? o).toList (p.addItemOperation m o) := by
  unfold addItemOperation
  cases m.key? o with
  | none => exact .pure ()
  | some key => exact .addResolver key _

theorem addSqlOperation_accounts (m : Model) (o : Operation) :
    Accounts reasons (m.key? o).toList (p.addSqlOperation m o) := by
  unfold addSqlOperation
  cases m.key? o with
  | none => exact .pure ()
  | some key => exact .get_bind fun out => .modify_bind (fun _ => rfl) (.addResolver key _)

/-! Each look-up has one error of its own. -/

theorem queryFieldOf_eq_ok {i : Index} {field : String} (h : queryFieldOf i = .ok field) :
    i.queryField = some field := by
  unfold queryFieldOf at h
  cases hq : i.queryField with
  | none =>
    rw [hq] at h
    cases h
  | some other =>
    simp only [hq] at h
    split at h
    · cases h
    · cases h
      rfl

theorem queryFieldOf_eq_error {i : Index} {e : BuildError} (h : queryFieldOf i = .error e) :
    e = .missingQueryField := by
  unfold queryFieldOf at h
  split at h
  · split at h
    · cases h
      rfl
    · cases h
  · cases h
    rfl

theorem querySource_eq_error {i : Index} {dbType : DbType} {out : Output} {e : BuildError}
    (h : querySource i dbType out = .error e) : e = .tableNotFound (tableId i.model) := by
  unfold querySource at h
  split at h
  · cases h
  · cases ht : out.table i.model with
    | ok t =>
      rw [ht] at h
      cases h
    | error other =>
      rw [ht] at h
      cases h
      exact Output.table_eq_error ht

theorem strategy_eq_error {model : String} {e : BuildError} (h : p.strategy model = .error e) :
    e = .modelWithoutDataSource model := by
  unfold strategy at h
  split at h
  · cases h
  · cases h
    rfl

theorem dbType_eq_error {model : String} {e : BuildError} (h : p.dbType model = .error e) :
    e = .modelWithoutDataSource model := by
  unfold dbType at h
  cases hs : p.strategy model with
  | ok s =>
    rw [hs] at h
    cases h
  | error e' =>
    rw [hs] at h
    cases h
    exact strategy_eq_error hs

variable (hinternal : ∀ e : BuildError, ¬ e.Reported → reasons e)
include hinternal

theorem addModel_accounts (m : Model) : Accounts reasons (m.rootFields p.config.usesSync) (p.addModel m) := by
  rw [← operations_keys, List.filterMap_eq_flatMap_toList]
  refine .lift_bind (fun e he => hinternal e ?_) fun s _ => ?_
  · rw [strategy_eq_error he]
    exact id
  · cases s.provisioning? with
    | some provisioning => exact .modify_bind (fun _ => rfl) (.forM fun o _ => addItemOperation_accounts m o)
    | none => exact .modify_bind (keys_ensureSqlDataSource _) (.forM fun o _ => addSqlOperation_accounts m o)

theorem applyPrimaryKey_accounts (k : PrimaryKey) : Accounts reasons [] (p.applyPrimaryKey k) := by
  unfold applyPrimaryKey
  cases p.isSqlModel k.model with
  | true => exact .modify_after (keyless_linesPlan _ _) fun out => foldl_addOperationLines k.model _ _ out
  | false =>
    let plan := p.linesPlan k.model ([Operation.get, .list, .create, .update, .delete].map fun o =>
      (o, p.keyLines k.key o)) ++ p.syncPlan k.model primaryKeySyncName k.key
    have hkeys : plan.filterMap Action.key? = [] := by
      rw [List.filterMap_append, keyless_linesPlan, keyless_syncPlan]
      rfl
    have heq : ∀ out, p.applyTableKey k out = out.after plan := by
      intro out
      rw [Output.after_append, applyTableKey, registerSync_eq, foldl_addOperationLines]
    exact .bind (.changeTable (hinternal _ id) _) fun _ => .modify_after hkeys heq

theorem addIndexQuery_accounts (i : Index) (dbType : DbType) :
    Accounts reasons (i.queryField.map (ResolverKey.mk queryType)).toList (p.addIndexQuery i dbType) := by
  refine .lift_bind (fun e he => hinternal e ?_) fun field hfield => ?_
  · rw [queryFieldOf_eq_error he]
    exact id
  rw [queryFieldOf_eq_ok hfield]
  refine .get_bind fun out => .lift_bind (fun e he => hinternal e ?_) fun source _ => ?_
  · rw [querySource_eq_error he]
    exact id
  obtain ⟨dataSource, stackId⟩ := source
  refine .check_bind (fun _ => hinternal _ id) (.lift_bind (fun e he => ?_) fun backend _ => ?_)
  · -- the tag comes from a database, so it is known
    cases (ofTag_tag dbType).symm.trans he
  have hrefer : Accounts reasons [] (if dbType.isSql then modify fun out : Output =>
      { out with renames := out.renames.refer i.model ⟨queryType, field, false⟩ } else pure ()) := by
    split
    · exact .modify fun _ => rfl
    · exact .pure ()
  exact (Accounts.addResolver _ _).bind fun _ => hrefer

theorem applyIndexToResolvers_accounts {i : Index} (hname : i.name.isEmpty = true → reasons .missingIndexName) :
    Accounts reasons (i.queryField.map (ResolverKey.mk queryType)).toList (p.applyIndexToResolvers i) := by
  unfold applyIndexToResolvers
  refine .check_bind hname (.lift_bind (fun e he => hinternal e ?_) fun dbType _ => ?_)
  · rw [dbType_eq_error he]
    exact id
  have hguard : Accounts reasons [] (if dbType = .dynamodb then modify (p.guardIndex i) else pure ()) := by
    split
    · exact .modify_after (keyless_linesPlan _ _) fun out => guardIndex_eq i out
    · exact .pure ()
  have hquery : Accounts reasons (i.queryField.map (ResolverKey.mk queryType)).toList
      (if i.queryField.isSome then p.addIndexQuery i dbType else pure ()) := by
    cases hq : i.queryField with
    | none => exact .pure ()
    | some field =>
      have h := addIndexQuery_accounts hinternal (p := p) i dbType
      rwa [hq] at h
  have hsync : Accounts reasons []
      (if dbType = .dynamodb then modify (p.registerSync i.model i.name i.key) else pure ()) := by
    split
    · exact .modify_after (keyless_syncPlan _ _ _) fun out => p.registerSync_eq _ _ _ out
    · exact .pure ()
  rw [← List.nil_append (Option.toList _), ← List.append_nil (Option.toList _)]
  exact .ite_bind hguard (.ite_bind hquery hsync)

theorem applyIndex_accounts {i : Index} (hname : i.name = "" → reasons .missingIndexName) :
    Accounts reasons (i.queryField.map (ResolverKey.mk queryType)).toList (p.applyIndex i) := by
  have hcheck : i.name.isEmpty = true → reasons .missingIndexName := fun h => hname (by simpa using h)
  have hprovision : Accounts reasons [] (p.provisionIndex i) := by
    unfold provisionIndex
    split
    · exact .pure ()
    · split
      next hempty => exact .throw (hcheck hempty)
      next => exact .changeTable (hinternal _ id) _
  exact hprovision.bind fun _ => applyIndexToResolvers_accounts hinternal hcheck

omit hinternal in
theorem addSqlField_accounts {f : SqlField} (hf : p.sqlFieldDbType? f = none → reasons (.sqlWithoutDataSource f.key)) :
    Accounts reasons [f.key] (p.addSqlField f) := by
  unfold addSqlField
  cases hdb : p.sqlFieldDbType? f with
  | none => exact .throw (hf hdb)
  | some dbType => exact .modify_bind (keys_ensureSqlDataSource dbType) (.addResolver f.key _)

/-- What the build adds, and why it may fail. -/
theorem build_accounts {d : Declarations} (hd : p.models = d.models)
    (hindexes : ∀ i ∈ d.indexes, i.name = "" → reasons .missingIndexName)
    (hfields : ∀ f ∈ d.sqlFields, p.sqlFieldDbType? f = none → reasons (.sqlWithoutDataSource f.key)) :
    Accounts reasons (d.rootFields p.config.usesSync) (p.build d) := by
  have hmodels : Accounts reasons (d.models.values.flatMap (·.rootFields p.config.usesSync)) p.addModels := by
    rw [← hd]
    exact .forM fun m _ => addModel_accounts hinternal m
  have hprimary : Accounts reasons [] (d.primaryKeys.forM p.applyPrimaryKey) := by
    have h := Accounts.forM fun k (_ : k ∈ d.primaryKeys) => applyPrimaryKey_accounts (p := p) hinternal k
    rwa [List.flatMap_eq_nil_iff.2 fun _ _ => rfl] at h
  have hindex : Accounts reasons (d.indexes.filterMap (·.queryField.map (ResolverKey.mk queryType)))
      (d.indexes.forM p.applyIndex) := by
    rw [List.filterMap_eq_flatMap_toList]
    exact .forM fun i hi => applyIndex_accounts hinternal (hindexes i hi)
  have hsql : Accounts reasons (d.sqlFields.map (·.key)) (p.addSqlFields d.sqlFields) := by
    rw [List.map_eq_flatMap]
    exact .forM fun f hf => addSqlField_accounts (hfields f hf)
  have hall := hmodels.bind fun _ => (hprimary.bind fun _ => hindex).bind fun _ => hsql
  rw [Declarations.rootFields, List.append_assoc]
  exact hall

end Project

/-! ## documents -/

/-- The only failures of a step that carries out a plan are those the document is to blame for. -/
theorem Performs.reported_of_error {P : Output → Prop} {ok : Prop} {plan : List Action} {x : Build Unit}
    (h : Performs P ok plan x) {out out' : Output} {e : BuildError} (hP : P out)
    (hx : outcome x out = (.error e, out')) : e.Reported := by
  by_cases hok : ok ∧ out.Free plan
  · rw [h.run out hP hok.1 hok.2] at hx
    cases hx
  · obtain ⟨e', out'', he, hreported⟩ := h.fails out hP hok
    rw [he] at hx
    cases hx
    exact hreported

section Document

variable {doc : Document} {config : Config} {d : Declarations}

/-- A failure of the build, as the document shows it. -/
inductive Declarations.Fails (config : Config) (doc : Document) (d : Declarations) : BuildError → Prop where
  | unnamedIndex (i : Index) (hi : i ∈ d.indexes) (hname : i.name = "") : Fails config doc d .missingIndexName
  | duplicateField (key : ResolverKey) (hkey : 1 < (d.rootFields config.usesSync).count key) :
    Fails config doc d (.duplicateResolver key)
  | noDatabase (f : SqlField) (hf : f ∈ d.sqlFields) (hdb : (projectOf config doc d).sqlFieldDbType? f = none) :
    Fails config doc d (.sqlWithoutDataSource f.key)

/-- The build fails only for what the document shows. -/
theorem fails_of_build (hd : collect doc config (config.sourcesOf doc) = .ok d) {e : BuildError} {out : Output}
    (h : outcome ((projectOf config doc d).build d) d.start = (.error e, out)) : d.Fails config doc e := by
  have hstart : d.start.StoredAs d.renames.storedModel := rfl
  have hreported : e.Reported := (build_document hd).reported_of_error hstart h
  have haccounts : Accounts (fun e => ¬ e.Reported ∨ d.Fails config doc e) (d.rootFields config.usesSync)
      ((projectOf config doc d).build d) := by
    apply Project.build_accounts (p := projectOf config doc d)
    · exact fun e he => .inl he
    · rfl
    · exact fun i hi hname => .inr (.unnamedIndex i hi hname)
    · exact fun f hf hdb => .inr (.noDatabase f hf hdb)
  -- a failure is of both kinds at once, so it is no look-up
  rcases haccounts.failed d.start e out h with (hinternal | hfails) | ⟨key, rfl, hcount⟩
  · exact absurd hreported hinternal
  · exact hfails
  · have hnone : d.start.registry.keys = [] := rfl
    rw [hnone, List.nil_append] at hcount
    exact .duplicateField key hcount

/-- **Why a document does not compile.** A directive is out of place, directives are misused, or the build fails for an
index without a name, a root field that is asked for twice or a field with a statement and no database. No compilation
ends in a table, a data source or a strategy that was not found. -/
theorem compileDocument_failures {e : CompileError} (h : compileDocument doc config = .error e) :
    (∃ u, e = .unsupported u ∧ firstUnsupported? doc (config.sourcesOf doc) = some u) ∨
    (∃ errors, e = .misused errors ∧ collect doc config (config.sourcesOf doc) = .error errors) ∨
    ∃ d b, e = .build b ∧ collect doc config (config.sourcesOf doc) = .ok d ∧ d.Fails config doc b := by
  cases hu : firstUnsupported? doc (config.sourcesOf doc) with
  | some u =>
    simp only [compileDocument, hu] at h
    cases h
    exact .inl ⟨u, rfl, rfl⟩
  | none =>
    cases hd : collect doc config (config.sourcesOf doc) with
    | error errors =>
      simp only [compileDocument, hu, hd] at h
      cases h
      exact .inr (.inl ⟨errors, rfl, rfl⟩)
    | ok d =>
      rw [compileDocument_of_collect hu hd] at h
      cases hout : outcome ((projectOf config doc d).build d) d.start with
      | mk r out =>
        rw [hout] at h
        cases r with
        | ok u => cases h
        | error b =>
          cases h
          exact .inr (.inr ⟨d, b, rfl, rfl, fails_of_build hd hout⟩)

end Document

/-- Two indexes of a model want to be queried by the same field. -/
def crowded : Document := ⟨[
  .type ⟨⟨1, 1⟩, "Post", false, .object [
    ⟨"day", [], .named "Int" false,
      [⟨"index", ⟨2, 13⟩, [("name", .str "byDay"), ("queryField", .str "posts")]⟩]⟩,
    ⟨"author", [], .named "ID" false,
      [⟨"index", ⟨3, 15⟩, [("name", .str "byAuthor"), ("queryField", .str "posts")]⟩]⟩], [⟨"model", ⟨1, 11⟩, []⟩]⟩]⟩

set_option maxRecDepth 10000 in
theorem crowded_fails : compileDocument crowded {} = .error (.build (.duplicateResolver ⟨queryType, "posts"⟩)) ∧
    ∃ d, collect crowded {} (Config.sourcesOf {} crowded) = .ok d ∧
      d.Fails {} crowded (.duplicateResolver ⟨queryType, "posts"⟩) := by
  have h : compileDocument crowded {} = .error (.build (.duplicateResolver ⟨queryType, "posts"⟩)) := by rfl
  refine ⟨h, ?_⟩
  rcases compileDocument_failures h with ⟨u, he, -⟩ | ⟨errors, he, -⟩ | ⟨d, b, he, hd, hfails⟩
  · cases he
  · cases he
  · cases he
    exact ⟨d, hd, hfails⟩

end ModelApi
