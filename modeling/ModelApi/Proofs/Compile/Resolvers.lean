import Mathlib.Data.List.Nodup
import ModelApi.Proofs.Compile.RootFields
import ModelApi.Proofs.Compile.Slots

/-!
# The resolvers that a plan adds

A resolver is settled when it is added, but for two things: keys and indexes get to the slot before authorization, and
renames of fields, at the very end, to the first slot.

* `Resolver.core`: a resolver without what stands before authorization;
* `core_of_registered`: what becomes of a resolver that a plan adds;
* `register_cases`: a plan adds resolvers for operations of models, for queries on indexes and for statements;
* `Declarations.served`: the root fields that serve models, each with its model;
* `resolver_of_compiled`: every resolver of an API is one that the plan has added.
-/

namespace ModelApi

open Schema (Document queryType)

/-! ## templates in a row -/

namespace Resolver

/-- Puts request templates behind those that a slot holds. -/
def addRequests (r : Resolver) (slot : Slot) (texts : List String) : Resolver :=
  texts.foldl (fun r text => r.addRequest slot text) r

theorem get_addRequests (r : Resolver) (slot other : Slot) (texts : List String) :
    (r.addRequests slot texts).slots.get other =
      r.slots.get other ++ if other = slot then texts.map .ofRequest else [] := by
  unfold addRequests
  induction texts generalizing r with
  | nil => simp
  | cons text texts ih =>
    have hadd : (r.addRequest slot text).slots.get other =
        if other = slot then r.slots.get other ++ [.ofRequest text] else r.slots.get other := Slots.get_add _ _ _ _
    rw [List.foldl_cons, ih, hadd]
    by_cases h : other = slot
    · simp [h]
    · simp [h]

/-- Templates in slots leave all else as it is. -/
theorem eq_addRequests (r : Resolver) (slot : Slot) (texts : List String) :
    ∃ slots, r.addRequests slot texts = { r with slots := slots } := by
  unfold addRequests
  induction texts generalizing r with
  | nil => exact ⟨r.slots, rfl⟩
  | cons text texts ih => exact ih (r.addRequest slot text)

theorem addRequests_addRequests (r : Resolver) (slot : Slot) (texts more : List String) :
    (r.addRequests slot texts).addRequests slot more = r.addRequests slot (texts ++ more) := by
  simp only [addRequests, List.foldl_append]

/-! ## apart from the slot before authorization -/

/-- The resolver without what stands before authorization. -/
def core (r : Resolver) : Resolver := { r with slots := { r.slots with preAuth := [] } }

theorem get_core (r : Resolver) {slot : Slot} (h : slot ≠ .preAuth) : r.core.slots.get slot = r.slots.get slot := by
  cases slot with
  | preAuth => exact absurd rfl h
  | _ => rfl

/-- The slot before authorization and the rest of it are all of a resolver. -/
theorem ext_core {r r' : Resolver} (hcore : r.core = r'.core) (hslot : r.slots.preAuth = r'.slots.preAuth) :
    r = r' := by
  obtain ⟨source, request, response, stackId, slots⟩ := r
  obtain ⟨source', request', response', stackId', slots'⟩ := r'
  cases slots
  cases slots'
  simp only [core, mk.injEq, Slots.mk.injEq] at hcore hslot ⊢
  simp [hcore, hslot]

theorem core_addRequests_init (r : Resolver) (texts : List String) :
    (r.addRequests .init texts).core = r.core.addRequests .init texts := by
  unfold addRequests
  induction texts generalizing r with
  | nil => rfl
  | cons text texts ih => exact ih (r.addRequest .init text)

end Resolver

variable {key : ResolverKey}

namespace Registry

/-- The resolver of a root field, without what stands before authorization. -/
def core? (r : Registry) (key : ResolverKey) : Option Resolver := (r.get? key).map (·.core)

theorem core?_update (r : Registry) (other : ResolverKey) {f : Resolver → Resolver} (hf : ∀ x, (f x).core = x.core) :
    core? (r.update other f) key = r.core? key := by
  unfold core?
  rw [OrderedMap.get?_update]
  by_cases h : key = other
  · simp [h, hf, Function.comp_def]
  · simp [h]

theorem core?_applySync (r : Registry) (s : SyncKeys) : core? (r.applySync s) key = r.core? key := by
  unfold applySync
  induction s.entries generalizing r with
  | nil => rfl
  | cons e entries ih =>
    rw [List.foldl_cons, ih]
    exact core?_update r e.1 fun x => rfl

end Registry

/-! ## renames of fields -/

/-- The templates that a field map has for the resolver of a root field: one for each time it refers to it. -/
def FieldMap.textsFor (key : ResolverKey) (m : FieldMap) : List String :=
  if m.fields.isEmpty then [] else (m.references.filter (·.key == key)).map fun _ => fieldMappingTemplate m

/-- The templates that all field maps have for the resolver of a root field. -/
def Renames.textsFor (key : ResolverKey) (renames : Renames) : List String :=
  renames.fieldMaps.values.flatMap (·.textsFor key)

namespace Registry

theorem get?_attachFieldMap (r : Registry) (m : FieldMap) :
    (r.attachFieldMap m).get? key = (r.get? key).map (·.addRequests .init (m.textsFor key)) := by
  unfold attachFieldMap FieldMap.textsFor
  split
  · exact Option.map_id'.symm
  · induction m.references generalizing r with
    | nil => exact Option.map_id'.symm
    | cons reference references ih =>
      rw [List.foldl_cons, ih, OrderedMap.get?_update]
      by_cases h : reference.key = key
      · simp [h, Function.comp_def, Resolver.addRequests]
      · have hother : ¬ key = reference.key := fun heq => h heq.symm
        simp [h, hother]

theorem get?_attachFieldMaps (r : Registry) (renames : Renames) :
    (r.attachFieldMaps renames).get? key = (r.get? key).map (·.addRequests .init (renames.textsFor key)) := by
  unfold attachFieldMaps Renames.textsFor
  induction renames.fieldMaps.values generalizing r with
  | nil => exact Option.map_id'.symm
  | cons m maps ih =>
    rw [List.foldl_cons, ih, get?_attachFieldMap, Option.map_map, List.flatMap_cons]
    exact congrArg (Option.map · _) (funext fun x => x.addRequests_addRequests _ _ _)

end Registry

/-! ## from being added to the end -/

namespace Output

/-- An action leaves every resolver that it does not create as it is, but for the slot before authorization. -/
theorem core_perform (out : Output) {a : Action} (ha : a.key? ≠ some key) :
    (out.perform a).registry.core? key = out.registry.core? key := by
  cases a with
  | register other resolver =>
    have hne : key ≠ other := fun h => ha (congrArg some h.symm)
    simp [perform, mapRegistry, Registry.core?, hne]
  | addLines other lines => exact Registry.core?_update _ other fun x => rfl
  | ensureSql dbType =>
    obtain ⟨sources, heq, -⟩ := ensureSqlDataSource_eq dbType out
    simp [perform, heq]
  | _ => rfl

theorem core_after {plan : List Action} (h : key ∉ plan.filterMap Action.key?) (out : Output) :
    (out.after plan).registry.core? key = out.registry.core? key := by
  refine after_preserves (P := fun o => o.registry.core? key = out.registry.core? key) (fun a ha o ho => ?_) rfl
  have hkey : a.key? ≠ some key := fun hsome => h (List.mem_filterMap.2 ⟨a, ha, hsome⟩)
  rw [core_perform o hkey, ho]

/-- The end adds the renames of fields, and changes nothing else outside the slot before authorization. -/
theorem core_finish (out : Output) :
    out.finish.registry.core? key =
      (out.registry.core? key).map (·.addRequests .init (out.renames.textsFor key)) := by
  rw [finish, Registry.core?, Registry.get?_attachFieldMaps, Option.map_map,
    ← Registry.core?_applySync out.registry out.syncKeys, Registry.core?, Option.map_map]
  exact congrArg (Option.map · _) (funext fun x => x.core_addRequests_init _)

/-- A resolver that a plan adds stays as it is, but for the slot before authorization and renames of fields. -/
theorem core_of_registered {out : Output} {plan : List Action} {resolver : Resolver}
    (hmem : .register key resolver ∈ plan) (hfree : out.Free plan) :
    (out.after plan).finish.registry.core? key =
      some (resolver.core.addRequests .init ((out.after plan).renames.textsFor key)) := by
  obtain ⟨before, rest, rfl⟩ := List.append_of_mem hmem
  have hcreated : ((out.after before).perform (.register key resolver)).registry.core? key = some resolver.core := by
    simp [perform, mapRegistry, Registry.core?]
  rw [core_finish]
  rw [after_append, after_cons, core_after hfree.notMem_rest, hcreated, Option.map_some]

end Output

/-! ## kinds of resolvers -/

namespace Project

variable {p : Project}

/-- The resolver of an operation of a model. -/
def modelResolver (p : Project) (stored : String → String) (m : Model) (o : Operation) (key : ResolverKey) : Resolver :=
  p.operationResolver m o (p.sourceOf m.name)
    (if p.isSqlModel m.name then functionRequest p.doc m.name (stored m.name) o.sqlOperation key.fieldName
      else itemRequest o)

theorem register_modelPlan {stored : String → String} {m : Model} {resolver : Resolver}
    (h : .register key resolver ∈ p.modelPlan stored m) :
    ∃ o ∈ p.operations m, m.key? o = some key ∧ resolver = p.modelResolver stored m o key := by
  obtain ⟨s, hs, h⟩ := mem_modelPlan.1 h
  have hsql := isSqlModel_eq hs
  rcases h with ⟨provisioning, hprovisioning, heq | ⟨o, ho, other, hkey, heq⟩⟩ |
    ⟨hprovisioning, heq | ⟨o, ho, other, hkey, heq | heq⟩⟩ <;> cases heq
  · rw [hprovisioning] at hsql
    exact ⟨o, ho, hkey, by simp [modelResolver, sourceOf, hsql]⟩
  · rw [hprovisioning] at hsql
    exact ⟨o, ho, hkey, by simp [modelResolver, sourceOf, hsql]⟩

theorem register_queryPlan {stored : String → String} {i : Index} {resolver : Resolver}
    (h : .register key resolver ∈ p.queryPlan stored i) :
    ∃ field, i.queryField = some field ∧ key = ⟨queryType, field⟩ ∧ resolver = p.queryResolver stored i field := by
  obtain ⟨field, hfield, heq | ⟨-, heq⟩⟩ := mem_queryPlan.1 h <;> cases heq
  exact ⟨field, hfield, rfl, rfl⟩

/-- A part of the plan without root fields adds no resolver. -/
theorem not_register_of_keyless {plan : List Action} (hplan : plan.filterMap Action.key? = []) {resolver : Resolver} :
    .register key resolver ∉ plan := by
  intro h
  have hnone := List.filterMap_eq_nil_iff.1 hplan _ h
  cases hnone

theorem register_indexPlan {stored : String → String} {i : Index} {resolver : Resolver}
    (h : .register key resolver ∈ p.indexPlan stored i) :
    ∃ field, i.queryField = some field ∧ key = ⟨queryType, field⟩ ∧ resolver = p.queryResolver stored i field := by
  rcases mem_indexPlan.1 h with h | ⟨-, heq | h | h⟩
  · exact register_queryPlan h
  · cases heq
  · exact absurd h (not_register_of_keyless (keyless_linesPlan _ _))
  · exact absurd h (not_register_of_keyless (keyless_syncPlan _ _ _))

/-- A plan adds resolvers for operations of models, for queries on indexes and for statements. -/
theorem register_cases {stored : String → String} {d : Declarations} {resolver : Resolver}
    (h : .register key resolver ∈ p.plan stored d) :
    (∃ m ∈ p.models.values, ∃ o ∈ p.operations m, m.key? o = some key ∧
      resolver = p.modelResolver stored m o key) ∨
    (∃ i ∈ d.indexes, ∃ field, i.queryField = some field ∧ key = ⟨queryType, field⟩ ∧
      resolver = p.queryResolver stored i field) ∨
    ∃ f ∈ d.sqlFields, key = f.key ∧ resolver = p.statementResolver f := by
  simp only [plan, List.mem_append, List.mem_flatMap] at h
  rcases h with ⟨m, hm, h⟩ | (⟨k, -, h⟩ | ⟨i, hi, h⟩) | ⟨f, hf, h⟩
  · exact .inl ⟨m, hm, register_modelPlan h⟩
  · exact absurd h (not_register_of_keyless (primaryKeyPlan_keys k))
  · exact .inr (.inl ⟨i, hi, register_indexPlan h⟩)
  · refine .inr (.inr ⟨f, hf, ?_⟩)
    rcases mem_sqlFieldPlan.1 h with ⟨dbType, -, heq⟩ | heq <;> cases heq
    exact ⟨rfl, rfl⟩

theorem register_of_operation (hp : p.Grounded) (stored : String → String) (d : Declarations) {m : Model}
    (hm : m ∈ p.models.values) {o : Operation} (ho : o ∈ p.operations m) (hkey : m.key? o = some key) :
    .register key (p.modelResolver stored m o key) ∈ p.plan stored d := by
  obtain ⟨s, hs⟩ := Option.isSome_iff_exists.1 (hp.sourced _ (hp.mem_keys hm))
  have hsql := isSqlModel_eq hs
  refine List.mem_append_left _ (List.mem_flatMap.2 ⟨m, hm, mem_modelPlan.2 ⟨s, hs, ?_⟩⟩)
  cases hprovisioning : s.provisioning? with
  | some provisioning =>
    rw [hprovisioning] at hsql
    exact .inl ⟨provisioning, rfl, .inr ⟨o, ho, key, hkey, by simp [modelResolver, sourceOf, hsql]⟩⟩
  | none =>
    rw [hprovisioning] at hsql
    exact .inr ⟨rfl, .inr ⟨o, ho, key, hkey, .inr (by simp [modelResolver, sourceOf, hsql])⟩⟩

end Project

/-! ## the models that resolvers serve -/

namespace Declarations

/-- The root fields that serve models, each with the name of its model: operations, and queries on indexes. -/
def served (sync : Bool) (d : Declarations) : List (String × ResolverKey) :=
  d.models.values.flatMap (fun m => (m.rootFields sync).map (m.name, ·)) ++
    d.indexes.flatMap fun i => (i.queryField.map (ResolverKey.mk queryType)).toList.map (i.model, ·)

variable {sync : Bool} {d : Declarations} {model other : String}

/-- Root fields serve models or have statements. -/
theorem rootFields_eq (sync : Bool) (d : Declarations) :
    d.rootFields sync = (d.served sync).map Prod.snd ++ d.sqlFields.map (·.key) := by
  simp [rootFields, served, List.map_flatMap, Function.comp_def, List.filterMap_eq_flatMap_toList]

/-- Root fields are distinct, so none serves two models. -/
theorem served_unique (hn : (d.rootFields sync).Nodup) (h : (model, key) ∈ d.served sync)
    (h' : (other, key) ∈ d.served sync) : model = other := by
  rw [rootFields_eq] at hn
  have hpair := List.inj_on_of_nodup_map (List.nodup_append.1 hn).1 h h' rfl
  exact (Prod.mk.inj hpair).1

theorem served_ne_statement (hn : (d.rootFields sync).Nodup) (h : (model, key) ∈ d.served sync) {f : SqlField}
    (hf : f ∈ d.sqlFields) : key ≠ f.key := by
  rw [rootFields_eq] at hn
  exact (List.nodup_append.1 hn).2.2 key (List.mem_map_of_mem h) f.key (List.mem_map_of_mem hf)

theorem mem_served_of_query {i : Index} (hi : i ∈ d.indexes) {field : String} (hfield : i.queryField = some field) :
    (i.model, ⟨queryType, field⟩) ∈ d.served sync :=
  List.mem_append_right _ (List.mem_flatMap.2 ⟨i, hi, by simp [hfield]⟩)

end Declarations

theorem Project.mem_served_of_operation {p : Project} {d : Declarations} {m : Model} (hm : m ∈ d.models.values)
    {o : Operation} (ho : o ∈ p.operations m) (hkey : m.key? o = some key) :
    (m.name, key) ∈ d.served p.config.usesSync := by
  refine List.mem_append_left _ (List.mem_flatMap.2 ⟨m, hm, List.mem_map.2 ⟨key, ?_, rfl⟩⟩)
  rw [← operations_keys]
  exact List.mem_filterMap.2 ⟨o, ho, hkey⟩

/-! ## resolvers of an API -/

theorem Action.register_of_key? {a : Action} (h : a.key? = some key) : ∃ resolver, a = .register key resolver := by
  cases a with
  | register other resolver =>
    cases h
    exact ⟨resolver, rfl⟩
  | _ => cases h

/-- The resolvers of an API are those of the root fields, in order. -/
theorem keys_of_compiled {doc : Document} {config : Config} {api : Api} {d : Declarations}
    (h : compileDocument doc config = .ok api) (hd : collect doc config (config.sourcesOf doc) = .ok d) :
    api.registry.keys = d.rootFields config.usesSync := by
  obtain ⟨hu, -⟩ := collect_of_compileDocument h
  obtain ⟨⟨-, hfree⟩, rfl⟩ := (compileDocument_eq_ok hu hd).1 h
  have hkeys : ((projectOf config doc d).plan d.renames.storedModel d).filterMap Action.key? =
      d.rootFields config.usesSync := Project.plan_keys (projectOf_grounded hd) _ rfl
  rw [Output.keys_finish, Output.keys_after _ _ hfree, hkeys]
  rfl

theorem rootFields_nodup {doc : Document} {config : Config} {api : Api} {d : Declarations}
    (h : compileDocument doc config = .ok api) (hd : collect doc config (config.sourcesOf doc) = .ok d) :
    (d.rootFields config.usesSync).Nodup := by
  rw [← keys_of_compiled h hd]
  exact api.registry.nodup

/-- The build starts without resolvers, so whatever resolver there is in the end is one that the plan has added. -/
theorem resolver_of_compiled {doc : Document} {config : Config} {api : Api} {d : Declarations}
    (h : compileDocument doc config = .ok api) (hd : collect doc config (config.sourcesOf doc) = .ok d) {r : Resolver}
    (hr : api.registry.get? key = some r) :
    ∃ resolver, .register key resolver ∈ (projectOf config doc d).plan d.renames.storedModel d ∧
      r.core = resolver.core.addRequests .init (api.renames.textsFor key) := by
  obtain ⟨hu, -⟩ := collect_of_compileDocument h
  obtain ⟨⟨-, hfree⟩, rfl⟩ := (compileDocument_eq_ok hu hd).1 h
  have hkey := OrderedMap.mem_keys_of_get? _ hr
  rw [Output.keys_finish, Output.keys_after _ _ hfree] at hkey
  obtain ⟨a, hmem, hsome⟩ := List.mem_filterMap.1 hkey
  obtain ⟨resolver, rfl⟩ := Action.register_of_key? hsome
  refine ⟨resolver, hmem, ?_⟩
  have hcore := Output.core_of_registered hmem hfree
  rw [Registry.core?, hr, Option.map_some, Option.some.injEq] at hcore
  exact hcore

end ModelApi
