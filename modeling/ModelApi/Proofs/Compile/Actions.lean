import ModelApi.Compile.Basic
import ModelApi.Proofs.OrderedMap

/-!
# Actions on the output

Whatever a compilation does to its output is a list of actions, and an action changes one thing in one place.

* `Output.perform` and `Output.after`: the output after an action, and after all actions of a plan;
* `keys_after`: the resolvers of a plan queue up behind those that are there;
* `tables_after`: tables change by the actions on tables, whatever else is done.
-/

namespace ModelApi

/-- One change of the output. -/
inductive Action where
  /-- Creates the table of a model, stored under a name, and its data source. -/
  | provision (model stored : String) (provisioning : Provisioning)
  /-- Creates the data source of relational resolvers, unless it exists. -/
  | ensureSql (dbType : DbType)
  | register (key : ResolverKey) (resolver : Resolver)
  | changeTable (model : String) (change : TableChange)
  | addLines (key : ResolverKey) (lines : List String)
  | registerSync (key : ResolverKey) (name : String) (k : Key)
  | refer (model : String) (reference : ResolverReference)

namespace Action

/-- The resolver that an action adds. -/
def key? : Action → Option ResolverKey
  | .register key _ => some key
  | _ => none

/-- What an action makes of the tables. -/
def onTables (tables : OrderedMap String Table) : Action → OrderedMap String Table
  | .provision model stored provisioning => tables.insert (tableId model) (Table.new model stored provisioning)
  | .changeTable model change => tables.update (tableId model) (·.apply change)
  | _ => tables

end Action

namespace Output

/-- The output after an action. -/
def perform (out : Output) : Action → Output
  | .provision model stored provisioning =>
    let table := Table.new model stored provisioning
    { out with stack := (out.stack.addDataSource ⟨table.id, table.stackId, .table table.id⟩).addTable table }
  | .ensureSql dbType => out.ensureSqlDataSource dbType
  | .register key resolver => out.mapRegistry (·.insert key resolver)
  | .changeTable model change => { out with stack := out.stack.updateTable (tableId model) (·.apply change) }
  | .addLines key lines => out.mapRegistry (·.update key (·.addLines lines false))
  | .registerSync key name k => { out with syncKeys := out.syncKeys.register key name k }
  | .refer model reference => { out with renames := out.renames.refer model reference }

/-- The output after all actions of a plan. -/
def after (out : Output) (plan : List Action) : Output := plan.foldl perform out

@[simp] theorem after_nil (out : Output) : out.after [] = out := rfl

@[simp] theorem after_cons (out : Output) (a : Action) (plan : List Action) :
    out.after (a :: plan) = (out.perform a).after plan := rfl

theorem after_append (out : Output) (plan rest : List Action) :
    out.after (plan ++ rest) = (out.after plan).after rest := List.foldl_append

/-- What every action keeps, a plan keeps. -/
theorem after_preserves {P : Output → Prop} {plan : List Action} (hP : ∀ a ∈ plan, ∀ out, P out → P (out.perform a))
    {out : Output} (h : P out) : P (out.after plan) := by
  induction plan generalizing out with
  | nil => exact h
  | cons a plan ih =>
    exact ih (fun b hb => hP b (List.mem_cons_of_mem _ hb)) (hP a List.mem_cons_self out h)

theorem ensureSqlDataSource_eq (dbType : DbType) (out : Output) :
    ∃ sources, out.ensureSqlDataSource dbType = { out with stack := { out.stack with dataSources := sources } } ∧
      sqlDataSource ∈ sources.keys ∧ out.stack.dataSources.keys ⊆ sources.keys := by
  unfold ensureSqlDataSource
  split
  next h => exact ⟨_, rfl, (OrderedMap.contains_iff _ _).1 h, List.Subset.refl _⟩
  next h =>
    refine ⟨_, rfl, (OrderedMap.mem_keys_insert _).2 (.inl rfl), ?_⟩
    exact fun name hname => (OrderedMap.mem_keys_insert _).2 (.inr hname)

/-! ## resolvers -/

/-- No field that the plan adds a resolver for is answered already, and none twice. -/
def Free (out : Output) (plan : List Action) : Prop := (out.registry.keys ++ plan.filterMap Action.key?).Nodup

theorem free_of_noKeys {out : Output} {plan : List Action} (h : plan.filterMap Action.key? = []) : out.Free plan := by
  rw [Free, h, List.append_nil]
  exact out.registry.nodup

theorem free_register {out : Output} {key : ResolverKey} {resolver : Resolver} :
    out.Free [.register key resolver] ↔ key ∉ out.registry.keys := by
  have hkeys : [Action.register key resolver].filterMap Action.key? = [key] := rfl
  have hnodup : out.registry.keys.Nodup := out.registry.nodup
  rw [Free, hkeys, List.perm_append_comm.nodup_iff, List.singleton_append, List.nodup_cons]
  exact ⟨fun h => h.1, fun h => ⟨h, hnodup⟩⟩

theorem keys_perform (out : Output) (a : Action) (h : out.Free [a]) :
    (out.perform a).registry.keys = out.registry.keys ++ a.key?.toList := by
  cases a with
  | register key resolver => exact OrderedMap.keys_insert_of_notMem _ resolver (free_register.1 h)
  | addLines key lines => simp [perform, mapRegistry, Action.key?]
  | ensureSql dbType =>
    obtain ⟨sources, heq, -⟩ := ensureSqlDataSource_eq dbType out
    simp [perform, heq, Action.key?]
  | _ => simp [perform, Action.key?]

theorem free_append {out : Output} {plan rest : List Action} :
    out.Free (plan ++ rest) ↔ out.Free plan ∧
      (out.registry.keys ++ plan.filterMap Action.key? ++ rest.filterMap Action.key?).Nodup := by
  unfold Free
  rw [List.filterMap_append, ← List.append_assoc]
  exact ⟨fun h => ⟨(List.nodup_append.1 h).1, h⟩, fun h => h.2⟩

/-- A field that has got its resolver is not among those that the rest of the plan adds one for. -/
theorem Free.notMem_rest {out : Output} {before rest : List Action} {key : ResolverKey} {resolver : Resolver}
    (h : out.Free (before ++ .register key resolver :: rest)) : key ∉ rest.filterMap Action.key? := by
  have hkeys : (before ++ .register key resolver :: rest).filterMap Action.key? =
      before.filterMap Action.key? ++ key :: rest.filterMap Action.key? := by
    simp [Action.key?]
  rw [Free, hkeys] at h
  exact (List.nodup_cons.1 (List.nodup_append.1 (List.nodup_append.1 h).2.1).2.1).1

/-- New resolvers queue up behind the old ones. -/
theorem keys_after (plan : List Action) (out : Output) (h : out.Free plan) :
    (out.after plan).registry.keys = out.registry.keys ++ plan.filterMap Action.key? := by
  induction plan generalizing out with
  | nil => simp
  | cons a plan ih =>
    obtain ⟨ha, hrest⟩ := free_append.1 (show out.Free ([a] ++ plan) from h)
    have hkeys := keys_perform out a ha
    have hlist : [a].filterMap Action.key? = a.key?.toList := by cases h : a.key? <;> simp [h]
    rw [hlist] at hrest
    rw [after_cons, ih (out.perform a) (by rw [Free, hkeys]; exact hrest), hkeys, List.append_assoc, ← hlist,
      ← List.filterMap_append]
    rfl

/-! ## tables -/

theorem tables_perform (out : Output) (a : Action) : (out.perform a).stack.tables = a.onTables out.stack.tables := by
  cases a with
  | ensureSql dbType =>
    obtain ⟨sources, heq, -⟩ := ensureSqlDataSource_eq dbType out
    simp [perform, heq, Action.onTables]
  | _ => rfl

/-- Tables change by the actions on tables, whatever else is done. -/
theorem tables_after (plan : List Action) (out : Output) :
    (out.after plan).stack.tables = plan.foldl Action.onTables out.stack.tables := by
  induction plan generalizing out with
  | nil => rfl
  | cons a plan ih => rw [after_cons, ih, tables_perform, List.foldl_cons]

/-! ## renames -/

/-- The names of models are settled before anything is built. -/
theorem storedModel_perform (out : Output) (a : Action) :
    (out.perform a).renames.storedModel = out.renames.storedModel := by
  cases a with
  | ensureSql dbType =>
    obtain ⟨sources, heq, -⟩ := ensureSqlDataSource_eq dbType out
    simp [perform, heq]
  | _ => rfl

/-! ## data sources -/

theorem dataSources_perform (out : Output) (a : Action) :
    out.stack.dataSources.keys ⊆ (out.perform a).stack.dataSources.keys := by
  cases a with
  | provision model stored provisioning => exact fun name hname => (OrderedMap.mem_keys_insert _).2 (.inr hname)
  | ensureSql dbType =>
    obtain ⟨sources, heq, -, hsub⟩ := ensureSqlDataSource_eq dbType out
    simpa [perform, heq] using hsub
  | _ => exact List.Subset.refl _

end Output

end ModelApi
