import ModelApi.Proofs.Compile.Build
import ModelApi.Proofs.Compile.Slots

/-!
# Where steps can lead

`Moves R x` says that the outputs before and after the step `x` are related by `R`, however `x` ends. Whether all steps
of the build keep to a relation that is reflexive and transitive can be seen from single actions (`Action.Within`):

* `addModels_moves`, `addSqlFields_moves`: models and fields with statements need the plain actions only;
* `applyPrimaryKey_moves`, `applyIndex_moves`: keys and indexes also need their own lines and registrations.
-/

namespace ModelApi

open Schema (queryType)

/-- However the step ends, the outputs before and after it are related. -/
def Moves {α : Type} (R : Output → Output → Prop) (x : Build α) : Prop := ∀ out, R out (outcome x out).2

/-- The relation allows the action wherever its root field, if it has one, is free. -/
def Action.Within (R : Output → Output → Prop) (a : Action) : Prop :=
  ∀ out : Output, out.Free [a] → R out (out.perform a)

section Moves

variable {α β : Type} {R : Output → Output → Prop} {x : Build α}

theorem Moves.of_same [Std.Refl R] (h : ∀ out, (outcome x out).2 = out) : Moves R x := by
  intro out
  rw [h out]
  exact Std.Refl.refl out

theorem Moves.pure [Std.Refl R] (a : α) : Moves R (pure a : Build α) := .of_same fun _ => rfl

theorem Moves.throw [Std.Refl R] (e : BuildError) : Moves R (throw e : Build α) := .of_same fun _ => rfl

theorem Moves.lift [Std.Refl R] (r : Except BuildError α) : Moves R (liftM r : Build α) := .of_same fun _ => rfl

theorem Moves.get [Std.Refl R] : Moves R (get : Build Output) := .of_same fun _ => rfl

theorem Moves.modify {f : Output → Output} (hf : ∀ out, R out (f out)) : Moves R (modify f : Build Unit) := hf

theorem Moves.bind [Trans R R R] {f : α → Build β} (hx : Moves R x) (hf : ∀ a, Moves R (f a)) : Moves R (x >>= f) := by
  intro out
  have hstep := hx out
  rw [outcome_bind]
  cases h : outcome x out with
  | mk r mid =>
    rw [h] at hstep
    cases r with
    | ok a => exact Trans.trans hstep (hf a mid)
    | error e => exact hstep

/-- A step that is taken only on a condition, before others. -/
theorem Moves.ite_bind [Trans R R R] {c : Prop} [Decidable c] {y : Build Unit} {f : Unit → Build β} (hy : Moves R y)
    (hf : ∀ u, Moves R (f u)) : Moves R (if c then y >>= f else f ()) := by
  split
  · exact hy.bind hf
  · exact hf ()

theorem Moves.ite {c : Prop} [Decidable c] {y : Build α} (hx : Moves R x) (hy : Moves R y) :
    Moves R (if c then x else y) := by
  split
  · exact hx
  · exact hy

theorem Moves.forM [Std.Refl R] [Trans R R R] {γ : Type} {f : γ → Build Unit} {l : List γ}
    (hf : ∀ a ∈ l, Moves R (f a)) : Moves R (l.forM f) := by
  induction l with
  | nil => exact Moves.pure ()
  | cons a l ih => exact (hf a List.mem_cons_self).bind fun _ => ih fun b hb => hf b (List.mem_cons_of_mem _ hb)

theorem Action.Within.of_keyless {a : Action} (h : a.Within R) (hkey : a.key? = none) (out : Output) :
    R out (out.perform a) := by
  refine h out (Output.free_of_noKeys ?_)
  rw [List.filterMap_cons_none hkey, List.filterMap_nil]

theorem Output.related_after [Std.Refl R] [Trans R R R] {plan : List Action} (hkeys : plan.filterMap Action.key? = [])
    (h : ∀ a ∈ plan, a.Within R) (out : Output) : R out (out.after plan) := by
  refine after_preserves (P := fun o => R out o) (fun a ha o ho => ?_) (Std.Refl.refl out)
  have hkey : a.key? = none := List.filterMap_eq_nil_iff.1 hkeys a ha
  exact Trans.trans ho ((h a ha).of_keyless hkey o)

theorem Moves.addResolver [Std.Refl R] {key : ResolverKey} {r : Resolver} (h : (Action.register key r).Within R) :
    Moves R (addResolver key r) := by
  intro out
  rw [outcome_addResolver]
  split
  · exact Std.Refl.refl out
  next hc =>
    refine h out (Output.free_register.2 ?_)
    rwa [← OrderedMap.contains_iff]

theorem Moves.changeTable [Std.Refl R] {model : String} {change : TableChange}
    (h : (Action.changeTable model change).Within R) : Moves R (changeTable model change) := by
  intro out
  rw [outcome_changeTable]
  cases out.table model with
  | error e => exact Std.Refl.refl out
  | ok t => exact h.of_keyless rfl out

end Moves

/-! ## the passes of the build -/

namespace Project

variable {p : Project} {R : Output → Output → Prop} [Std.Refl R] (hplain : ∀ a : Action, a.plain = true → a.Within R)
include hplain

theorem addItemOperation_moves (m : Model) (o : Operation) : Moves R (p.addItemOperation m o) := by
  unfold addItemOperation
  split
  · exact .pure ()
  · exact .addResolver (hplain _ rfl)

variable [Trans R R R]

theorem addSqlOperation_moves (m : Model) (o : Operation) : Moves R (p.addSqlOperation m o) := by
  unfold addSqlOperation
  split
  · exact .pure ()
  next key _ =>
    refine .bind .get fun out => .bind (.modify fun mid => ?_) fun _ => .addResolver (hplain _ rfl)
    exact (hplain (.refer m.name ⟨key.typeName, key.fieldName, o.isListing⟩) rfl).of_keyless rfl mid

theorem addModel_moves (m : Model) : Moves R (p.addModel m) := by
  refine .bind (.lift _) fun s => ?_
  cases s.provisioning? with
  | some provisioning =>
    refine .bind (.modify fun out => ?_) fun _ => .forM fun o _ => addItemOperation_moves hplain m o
    exact (hplain (.provision m.name (out.renames.storedModel m.name) provisioning) rfl).of_keyless rfl out
  | none =>
    refine .bind (.modify fun out => ?_) fun _ => .forM fun o _ => addSqlOperation_moves hplain m o
    exact (hplain (.ensureSql s.dbType) rfl).of_keyless rfl out

theorem addModels_moves : Moves R p.addModels := .forM fun m _ => addModel_moves hplain m

theorem applyPrimaryKey_moves {k : PrimaryKey} (hlines : ∀ a ∈ p.linesPlan k.model (p.keyedOperations k), a.Within R)
    (hsync : ∀ a ∈ p.syncPlan k.model primaryKeySyncName k.key, a.Within R) : Moves R (p.applyPrimaryKey k) := by
  unfold applyPrimaryKey
  unfold keyedOperations at hlines
  cases hsql : p.isSqlModel k.model with
  | true =>
    rw [hsql] at hlines
    refine .modify fun out => ?_
    rw [applySqlKey, foldl_addOperationLines k.model fun _ => [keyColumnsLine k.key]]
    exact Output.related_after (keyless_linesPlan _ _) hlines out
  | false =>
    rw [hsql] at hlines
    refine .bind (.changeTable (hplain _ rfl)) fun _ => .modify fun out => ?_
    rw [applyTableKey, registerSync_eq, foldl_addOperationLines k.model (p.keyLines k.key)]
    have hfirst := Output.related_after (keyless_linesPlan _ _) hlines out
    exact Trans.trans hfirst (Output.related_after (keyless_syncPlan _ _ _) hsync _)

theorem addIndexQuery_moves (i : Index) (dbType : DbType) : Moves R (p.addIndexQuery i dbType) := by
  refine .bind (.lift _) fun field => .bind .get fun out => .bind (.lift _) fun source => ?_
  obtain ⟨dataSource, stackId⟩ := source
  refine .ite_bind (.throw _) fun _ => .bind (.lift _) fun backend => .bind (.addResolver (hplain _ rfl)) fun _ => ?_
  refine .ite (.modify fun mid => ?_) (.pure ())
  exact (hplain (.refer i.model ⟨queryType, field, false⟩) rfl).of_keyless rfl mid

theorem applyIndex_moves {i : Index} (hlines : ∀ a ∈ p.linesPlan i.model (guardedMutations i), a.Within R)
    (hsync : ∀ a ∈ p.syncPlan i.model i.name i.key, a.Within R) : Moves R (p.applyIndex i) := by
  have hprovision : Moves R (p.provisionIndex i) :=
    .ite (.pure ()) (.ite (.throw _) (.changeTable (hplain _ rfl)))
  have hguard : ∀ out, R out (p.guardIndex i out) := by
    intro out
    rw [guardIndex_eq]
    exact Output.related_after (keyless_linesPlan _ _) hlines out
  have hregister : ∀ out, R out (p.registerSync i.model i.name i.key out) := by
    intro out
    rw [registerSync_eq]
    exact Output.related_after (keyless_syncPlan _ _ _) hsync out
  refine hprovision.bind fun _ => .ite_bind (.throw _) fun _ => .bind (.lift _) fun dbType => ?_
  refine .ite_bind (.modify hguard) fun _ => .ite_bind (addIndexQuery_moves hplain i dbType) fun _ => ?_
  exact .ite (.modify hregister) (.pure ())

theorem addSqlFields_moves (fields : List SqlField) : Moves R (p.addSqlFields fields) := by
  refine .forM fun f _ => ?_
  unfold addSqlField
  split
  · exact .throw _
  next dbType _ =>
    refine .bind (.modify fun out => ?_) fun _ => .addResolver (hplain _ rfl)
    exact (hplain (.ensureSql dbType) rfl).of_keyless rfl out

end Project

end ModelApi
