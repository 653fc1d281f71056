import Mathlib.Data.List.Nodup
import Mathlib.Data.List.Pairwise
import ModelApi.Proofs.Compile.Moves
import ModelApi.Proofs.Compile.RootFields

/-!
# Whose resolvers keys and indexes change

Keys and indexes find the resolvers of their model again by the names of its operations. Root fields are distinct, so
what they find is their own, with one exception: a relational model names a sync query even where sync is not used, and
its key then goes to whatever other resolver has that name.

* `Leaves key x`: however the step `x` ends, the resolver of the root field stays as it is;
* `Project.Foreign`: the root field belongs to no operation that a model offers;
* `Declarations.Belongs`: the root field is that of an operation of the model, or of a query on one of its indexes;
* `Project.Strays`: the exception;
* `keys_leave_other_models`: the keys and indexes of a model leave the resolvers of all others alone, but for strays.
-/

namespace ModelApi

open Schema (Document queryType)

/-! ## steps that leave a resolver alone -/

/-- The resolver of a root field, if there is one, is the same in both outputs, and so are its keys for sync. -/
structure Output.Agrees (key : ResolverKey) (out out' : Output) : Prop where
  resolver : ∀ r, out.registry.get? key = some r → out'.registry.get? key = some r
  syncKeys : out'.syncKeys.get? key = out.syncKeys.get? key

/-- However the step ends, it leaves the resolver of the root field as it is. -/
def Leaves {α : Type} (key : ResolverKey) (x : Build α) : Prop := ∀ out : Output, out.Agrees key (outcome x out).2

section Leaves

variable {key : ResolverKey}

theorem Output.Agrees.refl (out : Output) : out.Agrees key out := ⟨fun _ h => h, rfl⟩

theorem Output.Agrees.trans {a b c : Output} (h : a.Agrees key b) (h' : b.Agrees key c) : a.Agrees key c :=
  ⟨fun r hr => h'.resolver r (h.resolver r hr), h'.syncKeys.trans h.syncKeys⟩

instance : Std.Refl (Output.Agrees key) := ⟨.refl⟩

instance : Trans (Output.Agrees key) (Output.Agrees key) (Output.Agrees key) := ⟨.trans⟩

/-! ## actions that do not reach a resolver -/

/-- Whether an action bears on the resolver of a root field. -/
def Action.reaches (key : ResolverKey) : Action → Prop
  | .register other _ | .addLines other _ | .registerSync other _ _ => other = key
  | _ => False

theorem Output.agrees_perform {a : Action} (ha : ¬ a.reaches key) (out : Output) : out.Agrees key (out.perform a) := by
  cases a with
  | register other resolver =>
    have hne : key ≠ other := fun e => ha e.symm
    exact ⟨fun r hr => by simpa [perform, mapRegistry, hne] using hr, rfl⟩
  | addLines other lines =>
    have hne : key ≠ other := fun e => ha e.symm
    exact ⟨fun r hr => by simpa [perform, mapRegistry, hne] using hr, rfl⟩
  | registerSync other name k =>
    have hne : key ≠ other := fun e => ha e.symm
    exact ⟨fun _ hr => hr, by simp [perform, SyncKeys.register, hne]⟩
  | ensureSql dbType =>
    obtain ⟨sources, heq, -⟩ := ensureSqlDataSource_eq dbType out
    exact ⟨fun r hr => by simpa [perform, heq] using hr, by simp [perform, heq]⟩
  | _ => exact ⟨fun _ hr => hr, rfl⟩

theorem Action.within_of_not_reaches {a : Action} (ha : ¬ a.reaches key) : a.Within (Output.Agrees key) :=
  fun out _ => Output.agrees_perform ha out

/-- A resolver is never replaced by a new one. -/
theorem Action.within_of_plain {a : Action} (ha : a.plain = true) : a.Within (Output.Agrees key) := by
  cases a with
  | register other resolver =>
    intro out hfree
    refine ⟨fun r hr => ?_, rfl⟩
    have hne : key ≠ other := by
      rintro rfl
      exact (List.nodup_append.1 hfree).2.2 key (OrderedMap.mem_keys_of_get? _ hr) key (by simp [Action.key?]) rfl
    simpa [Output.perform, Output.mapRegistry, hne] using hr
  | addLines other lines => cases ha
  | registerSync other name k => cases ha
  | _ => exact within_of_not_reaches id

theorem Output.agrees_after {plan : List Action} (h : ∀ a ∈ plan, ¬ a.reaches key) (out : Output) :
    out.Agrees key (out.after plan) :=
  after_preserves (P := fun o => out.Agrees key o) (fun a ha _ ho => ho.trans (agrees_perform (h a ha) _)) (.refl out)

end Leaves

/-! ## keys and indexes -/

namespace Project

variable (p : Project)

/-- The root field belongs to no operation that the model offers. -/
def Foreign (model : String) (key : ResolverKey) : Prop :=
  ∀ o : Operation, (o = .sync → p.config.usesSync = true) → p.resolverKey? model o ≠ some key

/-- Without sync, the key of a relational model goes to whatever resolver has the name of the model's sync query. -/
def Strays (k : PrimaryKey) (key : ResolverKey) : Prop :=
  p.isSqlModel k.model = true ∧ p.config.usesSync = false ∧ p.resolverKey? k.model .sync = some key

instance (k : PrimaryKey) (key : ResolverKey) : Decidable (p.Strays k key) := inferInstanceAs (Decidable (_ ∧ _ ∧ _))

variable {p} {key : ResolverKey}

theorem linesPlan_reaches {model : String} {entries : List (Operation × List String)}
    (h : ∀ e ∈ entries, p.resolverKey? model e.1 ≠ some key) {a : Action} (ha : a ∈ p.linesPlan model entries) :
    ¬ a.reaches key := by
  obtain ⟨e, he, other, hother, rfl⟩ := mem_linesPlan.1 ha
  rintro rfl
  exact h e he hother

theorem syncPlan_reaches {model name : String} {k : Key} (h : p.Foreign model key) {a : Action}
    (ha : a ∈ p.syncPlan model name k) : ¬ a.reaches key := by
  obtain ⟨hsync, other, hother, rfl⟩ := mem_syncPlan.1 ha
  rintro rfl
  exact h .sync (fun _ => hsync) hother

theorem guardedMutations_reaches {i : Index} (h : p.Foreign i.model key) {a : Action}
    (ha : a ∈ p.linesPlan i.model (guardedMutations i)) : ¬ a.reaches key := by
  have hguarded : ∀ o checks, o ≠ .sync → ∀ e ∈ guardedMutation o checks, p.resolverKey? i.model e.1 ≠ some key := by
    intro o checks ho e he
    unfold guardedMutation at he
    split at he
    · cases he
    · rw [List.mem_singleton.1 he]
      exact h o fun hsync => absurd hsync ho
  refine linesPlan_reaches (fun e he => ?_) ha
  simp only [guardedMutations, List.mem_append] at he
  rcases he with (he | he) | he
  all_goals exact hguarded _ _ (by decide) e he

/-- An index leaves all resolvers alone but those of its own model. -/
theorem applyIndex_leaves {i : Index} (h : p.Foreign i.model key) : Leaves key (p.applyIndex i) :=
  applyIndex_moves (fun _ ha => Action.within_of_plain ha)
    (fun _ ha => Action.within_of_not_reaches (guardedMutations_reaches h ha))
    fun _ ha => Action.within_of_not_reaches (syncPlan_reaches h ha)

/-- The operations other than sync are the model's own, under both backends. -/
theorem keyLines_agrees {model : String} (h : p.Foreign model key) (lines : Operation → List String) (out : Output) :
    out.Agrees key (out.after (p.linesPlan model
      ([Operation.get, .list, .create, .update, .delete].map fun o => (o, lines o)))) := by
  refine Output.agrees_after (fun a ha => linesPlan_reaches (fun e he => ?_) ha) out
  obtain ⟨o, ho, rfl⟩ := List.mem_map.1 he
  refine h o fun hsync => ?_
  rw [hsync] at ho
  exact absurd ho (by decide)

theorem applyTableKey_agrees {k : PrimaryKey} (h : p.Foreign k.model key) (out : Output) :
    out.Agrees key (p.applyTableKey k out) := by
  unfold applyTableKey
  rw [registerSync_eq, foldl_addOperationLines k.model (p.keyLines k.key)]
  exact (keyLines_agrees h _ out).trans (Output.agrees_after (fun a ha => syncPlan_reaches h ha) _)

/-- The key of a relational model gets to a resolver of another model only by straying. -/
theorem applySqlKey_get? {k : PrimaryKey} (h : p.Foreign k.model key) (hsql : p.isSqlModel k.model = true)
    (out : Output) :
    (∀ r, out.registry.get? key = some r → (p.applySqlKey k out).registry.get? key =
      some (if p.Strays k key then r.addLines [keyColumnsLine k.key] false else r)) ∧
    (p.applySqlKey k out).syncKeys.get? key = out.syncKeys.get? key := by
  -- the lines for sync come last; all before them go to operations that the model offers
  let own := [Operation.get, .list, .create, .update, .delete].map fun o => (o, [keyColumnsLine k.key])
  have heq : p.applySqlKey k out =
      (out.after (p.linesPlan k.model own)).after (p.linesPlan k.model [(.sync, [keyColumnsLine k.key])]) := by
    unfold applySqlKey
    rw [foldl_addOperationLines k.model fun _ => [keyColumnsLine k.key], ← Output.after_append, ← linesPlan_append]
    rfl
  have hown : out.Agrees key (out.after (p.linesPlan k.model own)) := keyLines_agrees h _ out
  rw [heq]
  by_cases hsync : p.resolverKey? k.model .sync = some key
  · have hunused : p.config.usesSync = false := by
      cases hused : p.config.usesSync with
      | false => rfl
      | true => exact absurd hsync (h .sync fun _ => hused)
    have hplan : p.linesPlan k.model [(.sync, [keyColumnsLine k.key])] = [.addLines key [keyColumnsLine k.key]] := by
      simp [linesPlan, hsync]
    rw [hplan, Output.after_cons, Output.after_nil]
    refine ⟨fun r hr => ?_, hown.syncKeys⟩
    rw [if_pos ⟨hsql, hunused, hsync⟩]
    simp [Output.perform, Output.mapRegistry, hown.resolver r hr]
  · have hothers : ∀ e ∈ [(Operation.sync, [keyColumnsLine k.key])], p.resolverKey? k.model e.1 ≠ some key := by
      simpa using hsync
    have hrest := hown.trans (Output.agrees_after (fun a ha => linesPlan_reaches hothers ha) _)
    refine ⟨fun r hr => ?_, hrest.syncKeys⟩
    rw [if_neg fun hstrays => hsync hstrays.2.2]
    exact hrest.resolver r hr

/-- What the key of a model makes of a resolver that is not the model's own. -/
theorem applyPrimaryKey_get? {k : PrimaryKey} (h : p.Foreign k.model key) (out : Output) :
    (∀ r, out.registry.get? key = some r → (outcome (p.applyPrimaryKey k) out).2.registry.get? key =
      some (if p.Strays k key then r.addLines [keyColumnsLine k.key] false else r)) ∧
    (outcome (p.applyPrimaryKey k) out).2.syncKeys.get? key = out.syncKeys.get? key := by
  unfold applyPrimaryKey
  cases hsql : p.isSqlModel k.model with
  | true => exact applySqlKey_get? h hsql out
  | false =>
    have hleaves : Leaves key (do p.replaceTableKey k; modify (p.applyTableKey k)) :=
      Moves.bind (.changeTable (Action.within_of_plain rfl)) fun _ => .modify (applyTableKey_agrees h)
    have hstays : ¬ p.Strays k key := fun hstrays => absurd (hsql.symm.trans hstrays.1) Bool.false_ne_true
    refine ⟨fun r hr => ?_, (hleaves out).syncKeys⟩
    rw [if_neg hstays]
    exact (hleaves out).resolver r hr

theorem applyPrimaryKey_leaves {k : PrimaryKey} (h : p.Foreign k.model key) (hk : ¬ p.Strays k key) :
    Leaves key (p.applyPrimaryKey k) := by
  intro out
  obtain ⟨hresolver, hsync⟩ := applyPrimaryKey_get? h out
  refine ⟨fun r hr => ?_, hsync⟩
  rw [hresolver r hr, if_neg hk]

/-- All keys and all indexes of other models, in one run. -/
theorem applyKeys_leaves {primaryKeys : List PrimaryKey} {indexes : List Index}
    (hkeys : ∀ k ∈ primaryKeys, p.Foreign k.model key ∧ ¬ p.Strays k key)
    (hindexes : ∀ i ∈ indexes, p.Foreign i.model key) : Leaves key (p.applyKeys primaryKeys indexes) :=
  Moves.bind (.forM fun k hk => applyPrimaryKey_leaves (hkeys k hk).1 (hkeys k hk).2) fun _ =>
    .forM fun i hi => applyIndex_leaves (hindexes i hi)

/-- An operation that is found under the name of a model, and offered, is that of a model with that name. -/
theorem mem_rootFields_of_resolverKey? (hp : p.Grounded) {model : String} {o : Operation}
    (ho : o = .sync → p.config.usesSync = true) (h : p.resolverKey? model o = some key) :
    ∃ n ∈ p.models.values, n.name = model ∧ o ∈ p.operations n ∧ n.key? o = some key ∧
      key ∈ n.rootFields p.config.usesSync := by
  obtain ⟨n, hget, hfield⟩ := Option.bind_eq_some_iff.1 h
  have hentry := OrderedMap.mem_of_get? _ hget
  have hoffered : o ∈ p.operations n := by
    obtain ⟨field, hsome, -⟩ := Option.map_eq_some_iff.1 hfield
    refine List.mem_filter.2 ⟨by cases o <;> decide, ?_⟩
    by_cases hsync : o = .sync
    · simp [ho hsync, hsome]
    · simp [hsync, hsome]
  refine ⟨n, List.mem_map_of_mem hentry, hp.named _ hentry, hoffered, hfield, ?_⟩
  rw [← operations_keys]
  exact List.mem_filterMap.2 ⟨o, hoffered, hfield⟩

/-- Root fields are distinct, so those of one model are foreign to all others. -/
theorem foreign_of_nodup (hp : p.Grounded)
    (hn : (p.models.values.flatMap (·.rootFields p.config.usesSync)).Nodup) {m : Model} (hm : m ∈ p.models.values)
    (hkey : key ∈ m.rootFields p.config.usesSync) {model : String} (hne : model ≠ m.name) : p.Foreign model key := by
  intro o ho hother
  -- the field would also be one of `n`, a second model in the list
  obtain ⟨n, hvalue, hname, -, -, hkey'⟩ := mem_rootFields_of_resolverKey? hp ho hother
  have hdiff : m ≠ n := by
    rintro rfl
    exact hne hname.symm
  have hsymm : Std.Symm (Function.onFun List.Disjoint fun m : Model => m.rootFields p.config.usesSync) :=
    ⟨fun _ _ hdisjoint _ hleft hright => hdisjoint hright hleft⟩
  exact (List.nodup_flatMap.1 hn).2.forall hm hvalue hdiff hkey hkey'

end Project

/-- The root field belongs to the model: it is that of an operation, or else that of a query on an index, when the
models have not taken it. -/
inductive Declarations.Belongs (d : Declarations) (sync : Bool) (taken : List ResolverKey) (model : String)
    (key : ResolverKey) : Prop where
  | operation (m : Model) (hm : m ∈ d.models.values) (hname : m.name = model) (hkey : key ∈ m.rootFields sync)
  | query (i : Index) (hi : i ∈ d.indexes) (hmodel : i.model = model) (field : String)
      (hfield : i.queryField = some field) (hkey : key = ⟨queryType, field⟩) (hfree : key ∉ taken)

/-- **Keys and indexes leave the resolvers of other models alone, but for strays.** Once all models have their
resolvers, take a root field of a model, be it of an operation or of a query on an index. No index of another model
changes its resolver, whether the index is applied or fails. The key of another model changes it exactly when it strays:
the resolver then gains one template, which stashes the columns of that key. So no run over keys and indexes of other
models, none of which strays, changes it. -/
theorem keys_leave_other_models {doc : Document} {config : Config} {d : Declarations}
    (hd : collect doc config (config.sourcesOf doc) = .ok d) {start built : Output}
    (hbuilt : outcome (projectOf config doc d).addModels start = (.ok (), built)) {model : String} {key : ResolverKey}
    (hkey : d.Belongs config.usesSync built.registry.keys model key) :
    let p := projectOf config doc d
    (∀ m ∈ d.models.values, ∀ own ∈ m.rootFields config.usesSync, own ∈ built.registry.keys) ∧
    (∀ k : PrimaryKey, k.model ≠ model → ∀ out : Output,
      (∀ r, out.registry.get? key = some r → ∃ r',
        (outcome (p.applyPrimaryKey k) out).2.registry.get? key = some r' ∧
        (p.Strays k key →
          r.Gains ("$util.qr($ctx.stash.put(\"keys\", [" ++ quotedItems k.key.names ++ "]))" ++ "\n\x7b\x7d") r') ∧
        (¬ p.Strays k key → r' = r)) ∧
      (outcome (p.applyPrimaryKey k) out).2.syncKeys.get? key = out.syncKeys.get? key) ∧
    (∀ i : Index, i.model ≠ model → Leaves key (p.applyIndex i)) ∧
    ∀ primaryKeys indexes, (∀ k ∈ primaryKeys, k.model ≠ model ∧ ¬ p.Strays k key) →
      (∀ i ∈ indexes, i.model ≠ model) → Leaves key (p.applyKeys primaryKeys indexes) := by
  intro p
  have hp : p.Grounded := projectOf_grounded hd
  have hperforms := Project.addModels_performs hp start.renames.storedModel
  obtain ⟨⟨-, hfree⟩, rfl⟩ := hperforms.of_ok rfl hbuilt
  have hfields : (p.models.values.flatMap (p.modelPlan start.renames.storedModel)).filterMap Action.key? =
      p.models.values.flatMap (·.rootFields p.config.usesSync) := Project.models_keys hp _
  have hn : (p.models.values.flatMap (·.rootFields p.config.usesSync)).Nodup := by
    rw [← hfields]
    exact (List.nodup_append.1 hfree).2.1
  have hadded : ∀ m ∈ d.models.values, ∀ own ∈ m.rootFields config.usesSync,
      own ∈ (start.after (p.models.values.flatMap (p.modelPlan start.renames.storedModel))).registry.keys := by
    intro m hm own hown
    rw [Output.keys_after _ _ hfree, hfields]
    exact List.mem_append_right _ (List.mem_flatMap.2 ⟨m, hm, hown⟩)
  have hforeign : ∀ other, other ≠ model → p.Foreign other key := by
    intro other hne
    cases hkey with
    | operation m hm hname hkey =>
      subst hname
      exact Project.foreign_of_nodup hp hn hm hkey hne
    | query i hi hmodel field hfield hkey hfree =>
      intro o ho hother
      obtain ⟨n, hn, -, -, -, hroot⟩ := Project.mem_rootFields_of_resolverKey? hp ho hother
      exact hfree (hadded n hn key hroot)
  refine ⟨hadded, fun k hk out => ?_, ?_, ?_⟩
  · obtain ⟨hresolver, hsync⟩ := Project.applyPrimaryKey_get? (hforeign _ hk) out
    refine ⟨fun r hr => ⟨_, hresolver r hr, fun hstrays => ?_, fun hstays => if_neg hstays⟩, hsync⟩
    rw [if_pos hstrays]
    exact r.gains_addLines [Project.keyColumnsLine k.key]
  · exact fun i hi => Project.applyIndex_leaves (hforeign _ hi)
  · exact fun primaryKeys indexes hkeys hindexes => Project.applyKeys_leaves
      (fun k hk => ⟨hforeign _ (hkeys k hk).1, (hkeys k hk).2⟩) fun i hi => hforeign _ (hindexes i hi)

/-- Authors, in a database, give their sync query the name that posts give to their own query. The titles of posts have
directives. -/
def crossed (directives : List Schema.Directive) : Document := ⟨[
  .type ⟨⟨1, 1⟩, "Author", false, .object [
    ⟨"id", [], .named "ID" false, [⟨"primaryKey", ⟨2, 11⟩, []⟩]⟩, ⟨"name", [], .named "String" true, []⟩],
    [⟨"model", ⟨1, 13⟩,
      [("queries", .object [("get", .str "author"), ("sync", .str "getPost")]), ("mutations", .null)]⟩]⟩,
  .type ⟨⟨5, 1⟩, "Post", false, .object [
    ⟨"id", [], .named "ID" false, []⟩, ⟨"title", [], .named "String" true, directives⟩],
    [⟨"model", ⟨5, 11⟩, [("queries", .object [("get", .str "getPost")]), ("mutations", .null)]⟩]⟩]⟩

/-- Sync is not used. -/
def crossedConfig : Config :=
  { dataSources := .ofList
      [("Author", .mysql ⟨"db", ⟨"host", "port", "user", "password", "name"⟩, none, .empty, none⟩)] }

/-- The key of the authors in the query for posts. -/
theorem crossed_key_in_other_model :
    ((compileDocument (crossed []) crossedConfig).toOption.bind fun api =>
      (api.registry.get? ⟨"Query", "getPost"⟩).map fun r => (r.stackId, r.slots.preAuth)) =
    some ("Post", [⟨some "$util.qr($ctx.stash.put(\"keys\", [\"id\"]))\n\x7b\x7d", none⟩]) := by decide +kernel

/-- A query for posts by their titles. -/
def titleIndex : Schema.Directive :=
  ⟨"index", ⟨7, 18⟩, [("name", .str "byTitle"), ("queryField", .str "postsByTitle")]⟩

/-- The key of the authors strays into one query for posts, and leaves the other one alone. -/
theorem crossed_key_strays : ∃ d built, ∃ k : PrimaryKey,
    let p := projectOf crossedConfig (crossed [titleIndex]) d
    collect (crossed [titleIndex]) crossedConfig (crossedConfig.sourcesOf (crossed [titleIndex])) = .ok d ∧
    outcome p.addModels d.start = (.ok (), built) ∧ k ∈ d.primaryKeys ∧ k.model = "Author" ∧
    d.Belongs false built.registry.keys "Post" ⟨"Query", "getPost"⟩ ∧ p.Strays k ⟨"Query", "getPost"⟩ ∧
    (∃ r r', built.registry.get? ⟨"Query", "getPost"⟩ = some r ∧
      (outcome (p.applyPrimaryKey k) built).2.registry.get? ⟨"Query", "getPost"⟩ = some r' ∧
      r.Gains "$util.qr($ctx.stash.put(\"keys\", [\"id\"]))\n\x7b\x7d" r') ∧
    d.Belongs false built.registry.keys "Post" ⟨"Query", "postsByTitle"⟩ ∧
    Leaves ⟨"Query", "postsByTitle"⟩ (p.applyKeys [k] []) := by
  have hchecked : (collect (crossed [titleIndex]) crossedConfig
      (crossedConfig.sourcesOf (crossed [titleIndex]))).toOption.any (fun d =>
        let p := projectOf crossedConfig (crossed [titleIndex]) d
        let built := outcome p.addModels d.start
        built.1.toOption = some () ∧
        (∃ m ∈ d.models.values, m.name = "Post" ∧ ⟨"Query", "getPost"⟩ ∈ m.rootFields false) ∧
        (∃ i ∈ d.indexes, i.model = "Post" ∧ i.queryField = some "postsByTitle") ∧
        ⟨"Query", "postsByTitle"⟩ ∉ built.2.registry.keys ∧
        ∃ k ∈ d.primaryKeys, k.model = "Author" ∧ p.Strays k ⟨"Query", "getPost"⟩ ∧
          ¬ p.Strays k ⟨"Query", "postsByTitle"⟩ ∧ k.key.names = ["id"]) = true := by decide +kernel
  obtain ⟨d, hcollect, hvalues⟩ := (Option.any_eq_true _ _).1 hchecked
  obtain ⟨hok, ⟨m, hm, hname, hroot⟩, ⟨i, hi, hmodel, hfield⟩, hfree, k, hk, hauthor, hstrays, hstays, hnames⟩ :=
    of_decide_eq_true hvalues
  have hd := ok_of_toOption hcollect
  generalize hpair : outcome (projectOf crossedConfig (crossed [titleIndex]) d).addModels d.start = pair at hok hfree
  obtain ⟨result, built⟩ := pair
  obtain rfl : result = .ok () := ok_of_toOption hok
  have hown : d.Belongs false built.registry.keys "Post" ⟨"Query", "getPost"⟩ := .operation m hm hname hroot
  have hquery : d.Belongs false built.registry.keys "Post" ⟨"Query", "postsByTitle"⟩ :=
    .query i hi hmodel _ hfield rfl hfree
  have hother : k.model ≠ "Post" := by
    rw [hauthor]
    decide
  obtain ⟨hadded, hkeys, -⟩ := keys_leave_other_models hd hpair hown
  obtain ⟨-, -, -, hrun⟩ := keys_leave_other_models hd hpair hquery
  obtain ⟨r, hr⟩ := Option.isSome_iff_exists.1 ((OrderedMap.contains_iff _ _).2 (hadded m hm _ hroot))
  obtain ⟨r', hr', hgains, -⟩ := (hkeys k hother _).1 r hr
  rw [hnames] at hgains
  refine ⟨d, built, k, hd, hpair, hk, hauthor, hown, hstrays, ⟨r, r', hr, hr', ?_⟩, hquery, ?_⟩
  · have htext : "$util.qr($ctx.stash.put(\"keys\", [" ++ quotedItems ["id"] ++ "]))" ++ "\n\x7b\x7d" =
        "$util.qr($ctx.stash.put(\"keys\", [\"id\"]))\n\x7b\x7d" := by decide +kernel
    rw [← htext]
    exact hgains hstrays
  · exact hrun [k] [] (List.forall_mem_singleton.2 ⟨hother, hstays⟩) (List.forall_mem_nil _)

end ModelApi
