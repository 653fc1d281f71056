import ModelApi.Proofs.Compile.Failures

/-!
# Steps that fail before they change anything

A step that fails keeps what it did to the output before. Some steps make all of their look-ups first and change the
output only when nothing can go wrong any more, so that there is nothing to keep.

* `Commits R x`: if `x` fails the output is as it was, and if it succeeds `R` relates the outputs before and after;
* `Commits.bind_sure`: after the change only steps may follow that cannot fail;
* `changeTable_commits`, `addResolver_commits`, `addIndexQuery_commits`: the steps of this kind;
* `failed_steps_change_nothing`: keys and indexes of tables, and queries on indexes.
-/

namespace ModelApi

open Schema (queryType)

/-- A step that fails leaves the output as it was. One that succeeds changes it as `R` says. -/
structure Commits {α : Type} (R : Output → Output → Prop) (x : Build α) : Prop where
  done : ∀ {out a out'}, outcome x out = (.ok a, out') → R out out'
  failed : ∀ {out e out'}, outcome x out = (.error e, out') → out' = out

namespace Commits

variable {α β : Type} {R S : Output → Output → Prop} {x : Build α} {f : α → Build β}

theorem mono (h : Commits R x) (hRS : ∀ out out', R out out' → S out out') : Commits S x :=
  ⟨fun hdone => hRS _ _ (h.done hdone), h.failed⟩

protected theorem pure (h : ∀ out, R out out) (a : α) : Commits R (pure a : Build α) := by
  refine ⟨fun {out _ _} hdone => ?_, fun hfailed => nomatch hfailed⟩
  cases hdone
  exact h out

protected theorem throw (e : BuildError) : Commits R (throw e : Build α) :=
  ⟨fun hdone => (nomatch hdone), fun hfailed => (Prod.mk.inj hfailed).2.symm⟩

protected theorem ite {c : Prop} [Decidable c] {y : Build α} (hx : Commits R x) (hy : Commits R y) :
    Commits R (if c then x else y) := by
  split
  · exact hx
  · exact hy

/-! ## look-ups -/

theorem lift_bind {r : Except BuildError α} (h : ∀ a, r = .ok a → Commits R (f a)) : Commits R (liftM r >>= f) := by
  cases hr : r with
  | ok a => exact ⟨(h a hr).done, (h a hr).failed⟩
  | error e => exact ⟨fun hdone => (nomatch hdone), fun hfailed => (Prod.mk.inj hfailed).2.symm⟩

theorem get_bind {g : Output → Build β} (h : ∀ out, Commits R (g out)) : Commits R (get >>= g) :=
  ⟨fun {out _ _} hdone => (h out).done hdone, fun {out _ _} hfailed => (h out).failed hfailed⟩

/-- A check before further steps. -/
theorem check_bind {c : Prop} [Decidable c] {e : BuildError} {g : Unit → Build β} (h : Commits R (g ())) :
    Commits R (if c then throw e >>= g else g ()) := by
  split
  · exact .throw e
  · exact h

/-! ## changes -/

/-- What follows on a change must not fail. -/
theorem bind_sure (hx : Commits R x)
    (hf : ∀ a mid, ∃ b out', outcome (f a) mid = (.ok b, out') ∧ ∀ out, R out mid → S out out') :
    Commits S (x >>= f) := by
  constructor
  · intro out b out' hdone
    obtain ⟨a, mid, ha, hb⟩ := ok_of_outcome_bind hdone
    obtain ⟨b', last, hlast, hS⟩ := hf a mid
    rw [hlast] at hb
    cases hb
    exact hS out (hx.done ha)
  · intro out e out' hfailed
    rcases error_of_outcome_bind hfailed with he | ⟨a, mid, -, he⟩
    · exact hx.failed he
    · obtain ⟨b', last, hlast, -⟩ := hf a mid
      rw [hlast] at he
      cases he

end Commits

theorem changeTable_commits (model : String) (change : TableChange) :
    Commits (fun out out' => out' = out.perform (.changeTable model change)) (changeTable model change) := by
  constructor
  · intro out a out' hdone
    rw [outcome_changeTable] at hdone
    split at hdone
    · exact (Prod.mk.inj hdone).2.symm
    · cases hdone
  · intro out e out' hfailed
    rw [outcome_changeTable] at hfailed
    split at hfailed
    · cases hfailed
    · exact (Prod.mk.inj hfailed).2.symm

/-- The output has one more resolver, at the end. -/
def Output.Adds (key : ResolverKey) (out out' : Output) : Prop :=
  ∃ r, out'.registry.entries = out.registry.entries ++ [(key, r)]

theorem addResolver_commits (key : ResolverKey) (r : Resolver) : Commits (Output.Adds key) (addResolver key r) := by
  constructor
  · intro out a out' hdone
    rw [outcome_addResolver] at hdone
    split at hdone
    · cases hdone
    next hnew =>
      cases hdone
      have hnone : OrderedMap.find key out.registry.entries = none := by
        simpa [OrderedMap.contains, OrderedMap.get?] using hnew
      exact ⟨r, OrderedMap.put_of_find_none hnone⟩
  · intro out e out' hfailed
    rw [outcome_addResolver] at hfailed
    split at hfailed
    · exact (Prod.mk.inj hfailed).2.symm
    · cases hfailed

namespace Project

variable (p : Project)

/-- An index changes its table. For a relational model there is none, and nothing to do. -/
theorem provisionIndex_commits (i : Index) :
    Commits (fun out out' => out' = out ∨ out' = out.perform (.changeTable i.model (p.indexChange i)))
      (p.provisionIndex i) :=
  .ite (.pure (fun _ => .inl rfl) ()) (.ite (.throw _) ((changeTable_commits _ _).mono fun _ _ h => .inr h))

/-- A query on an index makes all of its look-ups before it adds its resolver, and then only notes where the resolver
stands. -/
theorem addIndexQuery_commits (i : Index) (dbType : DbType) :
    Commits (fun out out' => ∃ field, i.queryField = some field ∧ out.Adds ⟨queryType, field⟩ out')
      (p.addIndexQuery i dbType) := by
  refine .lift_bind fun field hfield => .get_bind fun out => .lift_bind fun source _ => .check_bind ?_
  refine .lift_bind fun backend _ => (addResolver_commits _ _).bind_sure fun _ mid => ?_
  have hquery : i.queryField = some field := queryFieldOf_eq_ok hfield
  cases dbType.isSql with
  | true => exact ⟨_, _, rfl, fun before hadds => ⟨field, hquery, hadds⟩⟩
  | false => exact ⟨_, _, rfl, fun before hadds => ⟨field, hquery, hadds⟩⟩

end Project

/-- When replacing the key of a table, adding an index to it or adding the query on an index fails, the output is as it
was before. When the query is added, it is the last resolver, and all others are as they were. -/
theorem failed_steps_change_nothing (p : Project) (k : PrimaryKey) (i : Index) (dbType : DbType) (out : Output) :
    (∀ e out', outcome (p.replaceTableKey k) out = (.error e, out') → out' = out) ∧
    (∀ e out', outcome (p.provisionIndex i) out = (.error e, out') → out' = out) ∧
    (∀ e out', outcome (p.addIndexQuery i dbType) out = (.error e, out') → out' = out) ∧
    ∀ out', outcome (p.addIndexQuery i dbType) out = (.ok (), out') → ∃ field r, i.queryField = some field ∧
      out'.registry.entries = out.registry.entries ++ [(⟨queryType, field⟩, r)] := by
  refine ⟨fun e out' h => (changeTable_commits _ _).failed h, fun e out' h => (p.provisionIndex_commits i).failed h,
    fun e out' h => (p.addIndexQuery_commits i dbType).failed h, fun out' h => ?_⟩
  obtain ⟨field, hfield, r, hr⟩ := (p.addIndexQuery_commits i dbType).done h
  exact ⟨field, r, hfield, hr⟩

/-- The same query twice: the first time it is added, the second time it is refused and nothing changes. -/
theorem query_added_once :
    let p : Project := ⟨{}, ⟨[]⟩, .empty, .empty⟩
    let i : Index := ⟨"byAuthor", "Post", ⟨⟨"author", .named "ID" false⟩, []⟩, none, some "postsByAuthor"⟩
    let out : Output := ({} : Output).perform (.provision "Post" "Post" .direct)
    ∃ added, outcome (p.addIndexQuery i .dynamodb) out = (.ok (), added) ∧
      added.registry.keys = [⟨queryType, "postsByAuthor"⟩] ∧
      outcome (p.addIndexQuery i .dynamodb) added =
        (.error (.duplicateResolver ⟨queryType, "postsByAuthor"⟩), added) := by
  intro p i out
  have hadded : outcome (p.addIndexQuery i .dynamodb) out =
      (.ok (), (outcome (p.addIndexQuery i .dynamodb) out).2) := rfl
  have hrefused : (outcome (p.addIndexQuery i .dynamodb) (outcome (p.addIndexQuery i .dynamodb) out).2).1 =
      .error (.duplicateResolver ⟨queryType, "postsByAuthor"⟩) := rfl
  obtain ⟨field, r, hfield, hr⟩ := (failed_steps_change_nothing p ⟨"Post", i.key⟩ i .dynamodb out).2.2.2 _ hadded
  cases hfield
  refine ⟨_, hadded, by rw [OrderedMap.keys, hr]; rfl, Prod.ext hrefused ?_⟩
  exact (failed_steps_change_nothing p ⟨"Post", i.key⟩ i .dynamodb _).2.2.1 _ _ (Prod.ext hrefused rfl)

end ModelApi
