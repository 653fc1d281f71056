import ModelApi.Proofs.Compile.Actions

/-!
# Steps that carry out a plan

A step reads the output, changes it and may fail. `Performs` says what it does: it carries out a plan exactly when a
condition holds and the root fields of the plan are free. Steps in sequence carry out their plans in sequence
(`Performs.seq`, `Performs.forM`), and what is known of the output may be used in a step (`Performs.get_bind`).
-/

namespace ModelApi

/-- What a step returns, and the output that it leaves. -/
def outcome {α : Type} (x : Build α) (out : Output) : Except BuildError α × Output := x.run.run out

section Outcome

variable {α β : Type}

theorem outcome_bind (x : Build α) (f : α → Build β) (out : Output) :
    outcome (x >>= f) out =
      match outcome x out with
      | (.ok a, out') => outcome (f a) out'
      | (.error e, out') => (.error e, out') := by
  simp only [outcome, bind, ExceptT.bind, ExceptT.run, ExceptT.mk, StateT.bind, StateT.run]
  rcases x out with ⟨_ | _, out'⟩ <;> rfl

@[simp] theorem outcome_get (out : Output) : outcome get out = (.ok out, out) := rfl

@[simp] theorem outcome_set (out out' : Output) : outcome (set out') out = (.ok ⟨⟩, out') := rfl

@[simp] theorem outcome_modify (f : Output → Output) (out : Output) : outcome (modify f) out = (.ok ⟨⟩, f out) := rfl

@[simp] theorem outcome_throw (e : BuildError) (out : Output) :
    outcome (throw e : Build α) out = (.error e, out) := rfl

@[simp] theorem outcome_lift (r : Except BuildError α) (out : Output) :
    outcome (liftM r : Build α) out = (r, out) := rfl

end Outcome

theorem outcome_changeTable (model : String) (change : TableChange) (out : Output) :
    outcome (changeTable model change) out =
      match out.table model with
      | .ok _ => (.ok (), out.perform (.changeTable model change))
      | .error e => (.error e, out) := by
  cases h : out.table model <;> simp [changeTable, outcome_bind, h, Output.perform]

theorem outcome_addResolver (key : ResolverKey) (r : Resolver) (out : Output) :
    outcome (addResolver key r) out =
      if out.registry.contains key then (.error (.duplicateResolver key), out)
      else (.ok (), out.perform (.register key r)) := by
  cases h : out.registry.contains key <;>
    simp [addResolver, outcome_bind, Registry.add?, h, Output.perform, Output.mapRegistry]

/-- The errors that have their cause in the document. -/
def BuildError.Reported : BuildError → Prop
  | .missingIndexName | .duplicateResolver _ | .sqlWithoutDataSource _ => True
  | _ => False

/-- From outputs with `P` the step carries out the plan, if `ok` holds and the root fields of the plan are free;
otherwise it fails, and the document is to blame. -/
structure Performs (P : Output → Prop) (ok : Prop) (plan : List Action) (x : Build Unit) : Prop where
  run : ∀ out, P out → ok → out.Free plan → outcome x out = (.ok (), out.after plan)
  fails : ∀ out, P out → ¬ (ok ∧ out.Free plan) → ∃ e out', outcome x out = (.error e, out') ∧ e.Reported

namespace Performs

variable {P Q : Output → Prop} {ok ok₁ ok₂ : Prop} {plan plan₁ plan₂ : List Action} {x y : Build Unit}

/-- A step that succeeds had its reasons. -/
theorem of_ok (h : Performs P ok plan x) {out out' : Output} (hP : P out) (hx : outcome x out = (.ok (), out')) :
    (ok ∧ out.Free plan) ∧ out' = out.after plan := by
  by_cases hok : ok ∧ out.Free plan
  · rw [h.run out hP hok.1 hok.2] at hx
    cases hx
    exact ⟨hok, rfl⟩
  · obtain ⟨e, out'', he, -⟩ := h.fails out hP hok
    rw [he] at hx
    cases hx

/-- The condition is read up to equivalence. -/
theorem congr (h : Performs P ok₁ plan x) (hok : ok₁ ↔ ok) : Performs P ok plan x :=
  ⟨fun out hP ho => h.run out hP (hok.2 ho), fun out hP hn => h.fails out hP fun hc => hn ⟨hok.1 hc.1, hc.2⟩⟩

protected theorem pure : Performs P True [] (pure ()) := by
  refine ⟨fun out _ _ _ => rfl, fun out _ hn => ?_⟩
  exact absurd ⟨trivial, Output.free_of_noKeys rfl⟩ hn

/-- A step that only changes the output, and adds no resolver. -/
protected theorem modify {f : Output → Output} (hkeys : plan.filterMap Action.key? = [])
    (hf : ∀ out, P out → f out = out.after plan) : Performs P True plan (modify f) := by
  refine ⟨fun out hP _ _ => ?_, fun out _ hn => ?_⟩
  · rw [outcome_modify, hf out hP]
  · exact absurd ⟨trivial, Output.free_of_noKeys hkeys⟩ hn

protected theorem throw {e : BuildError} (he : e.Reported) : Performs P False plan (throw e) :=
  ⟨fun _ _ h => h.elim, fun out _ _ => ⟨e, out, rfl, he⟩⟩

/-- One step after the other carries out one plan after the other. -/
theorem seq (hx : Performs P ok₁ plan₁ x) (hy : Performs Q ok₂ plan₂ y)
    (hQ : ∀ out, P out → Q (out.after plan₁)) : Performs P (ok₁ ∧ ok₂) (plan₁ ++ plan₂) (x >>= fun _ => y) := by
  -- after the first plan its fields are answered, so the second has to avoid them as well
  have hfree : ∀ out : Output, out.Free plan₁ → ((out.after plan₁).Free plan₂ ↔ out.Free (plan₁ ++ plan₂)) := by
    intro out h
    rw [Output.free_append, Output.Free, Output.keys_after plan₁ out h]
    exact ⟨fun h₂ => ⟨h, h₂⟩, fun h₂ => h₂.2⟩
  refine ⟨fun out hP hok hf => ?_, fun out hP hn => ?_⟩
  · have hf₁ := (Output.free_append.1 hf).1
    rw [outcome_bind, hx.run out hP hok.1 hf₁, Output.after_append]
    exact hy.run _ (hQ out hP) hok.2 ((hfree out hf₁).2 hf)
  · -- either the first step fails, or it succeeds and then the second one fails
    by_cases h₁ : ok₁ ∧ out.Free plan₁
    · have hn₂ : ¬ (ok₂ ∧ (out.after plan₁).Free plan₂) := by
        rintro ⟨h₂, hf₂⟩
        exact hn ⟨⟨h₁.1, h₂⟩, (hfree out h₁.2).1 hf₂⟩
      obtain ⟨e, out', he, hr⟩ := hy.fails _ (hQ out hP) hn₂
      refine ⟨e, out', ?_, hr⟩
      rw [outcome_bind, hx.run out hP h₁.1 h₁.2]
      exact he
    · obtain ⟨e, out', he, hr⟩ := hx.fails out hP h₁
      exact ⟨e, out', by rw [outcome_bind, he], hr⟩

/-- A step for each of several things, where each leaves intact what the others rely on. -/
theorem forM {α : Type} {f : α → Build Unit} {ok : α → Prop} {plan : α → List Action} {l : List α}
    (hf : ∀ a ∈ l, Performs P (ok a) (plan a) (f a)) (hP : ∀ a ∈ l, ∀ out, P out → P (out.after (plan a))) :
    Performs P (∀ a ∈ l, ok a) (l.flatMap plan) (l.forM f) := by
  induction l with
  | nil => exact Performs.pure.congr (by simp)
  | cons a l ih =>
    have hrest := ih (fun b hb => hf b (List.mem_cons_of_mem _ hb)) (fun b hb => hP b (List.mem_cons_of_mem _ hb))
    exact ((hf a List.mem_cons_self).seq hrest (hP a List.mem_cons_self)).congr (by simp)

/-- A step that starts by reading the output. -/
theorem get_bind {f : Output → Build Unit} (h : ∀ out, P out → Performs P ok plan (f out)) :
    Performs P ok plan (get >>= f) :=
  ⟨fun out hP => (h out hP).run out hP, fun out hP => (h out hP).fails out hP⟩

/-- A step that starts with what can be computed. -/
theorem lift_bind {α : Type} {r : Except BuildError α} {f : α → Build Unit} {a : α} (hr : r = .ok a)
    (h : Performs P ok plan (f a)) : Performs P ok plan (liftM r >>= f) := by
  subst hr
  exact ⟨h.run, h.fails⟩

/-- A step that is taken only on a condition, before others. -/
theorem ite_bind {c : Prop} [Decidable c] {f : Unit → Build Unit}
    (h : Performs P ok plan ((if c then x else Pure.pure ()) >>= f)) :
    Performs P ok plan (if c then x >>= f else f ()) := by
  split at h
  next hc => rwa [if_pos hc]
  next hc => rwa [if_neg hc]

/-- Adding a resolver fails exactly when the root field is answered already. -/
theorem addResolver (key : ResolverKey) (r : Resolver) : Performs P True [.register key r] (addResolver key r) := by
  have hfree : ∀ out : Output, out.Free [.register key r] ↔ ¬ out.registry.contains key = true := by
    intro out
    rw [Output.free_register, OrderedMap.contains_iff]
  refine ⟨fun out _ _ hf => ?_, fun out _ hn => ?_⟩
  · rw [outcome_addResolver, if_neg ((hfree out).1 hf)]
    rfl
  · have hkey : out.registry.contains key = true := Decidable.not_not.1 fun h => hn ⟨trivial, (hfree out).2 h⟩
    exact ⟨.duplicateResolver key, out, by rw [outcome_addResolver, if_pos hkey], trivial⟩

/-- A table that is there can be changed. -/
theorem changeTable {model : String} (hP : ∀ out, P out → (out.stack.tables.get? (tableId model)).isSome)
    (change : TableChange) : Performs P True [.changeTable model change] (changeTable model change) := by
  refine ⟨fun out hout _ _ => ?_, fun out _ hn => ?_⟩
  · obtain ⟨t, ht⟩ := Option.isSome_iff_exists.1 (hP out hout)
    rw [outcome_changeTable, Output.table, ht]
    rfl
  · exact absurd ⟨trivial, Output.free_of_noKeys rfl⟩ hn

end Performs

end ModelApi
