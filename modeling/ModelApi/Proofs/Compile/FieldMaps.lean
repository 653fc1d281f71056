import Mathlib.Data.List.Flatten
import ModelApi.Proofs.Compile.Resolvers
import ModelApi.Proofs.Directive.FieldRenames

/-!
# Which resolvers learn about renamed fields

A relational model notes every resolver that serves it: the operations before they are added, queries on indexes after
that. In the end each of them gets the renames of the fields of its model, if there are any.

* `Action.reference?`: the resolver that an action notes for a model;
* `fieldMaps_after`: a plan notes its resolvers in order;
* `plan_notes`: no resolver is noted twice, since none is added twice;
* `textsFor_served`, `textsFor_statement`: the renames that get to a resolver;
* `compiled_fieldMapping`: the first slot of every resolver of an API.
-/

namespace ModelApi

open Schema (Document queryType)
open Text (joinWith)

variable {key : ResolverKey}

/-! ## noting resolvers -/

/-- The resolver that an action notes for a model. -/
def Action.reference? (model : String) : Action → Option ResolverReference
  | .refer other reference => if other = model then some reference else none
  | _ => none

theorem FieldMap.foldl_refer (references : List ResolverReference) (m : FieldMap)
    (hn : (m.references ++ references).Nodup) :
    references.foldl FieldMap.refer m = { m with references := m.references ++ references } := by
  induction references generalizing m with
  | nil => simp
  | cons reference references ih =>
    have hnew : m.references.contains reference = false := by
      have hnot : reference ∉ m.references := by
        intro hmem
        exact (List.nodup_append.1 hn).2.2 reference hmem reference List.mem_cons_self rfl
      simpa using hnot
    have hstep : m.refer reference = { m with references := m.references ++ [reference] } := by
      rw [FieldMap.refer, hnew]
      rfl
    rw [List.foldl_cons, hstep, ih]
    · simp
    · simpa using hn

namespace Output

theorem fieldMaps_perform (out : Output) (a : Action) (model : String) :
    (out.perform a).renames.fieldMaps.get? model =
      (out.renames.fieldMaps.get? model).map fun m =>
        if m.fields.isEmpty then m else (a.reference? model).toList.foldl FieldMap.refer m := by
  cases a with
  | refer other reference =>
    by_cases h : other = model
    · simp [perform, Renames.refer, Action.reference?, h]
    · simp [perform, Renames.refer, Action.reference?, h, Ne.symm h]
  | ensureSql dbType =>
    obtain ⟨sources, heq, -⟩ := ensureSqlDataSource_eq dbType out
    simp [perform, heq, Action.reference?]
  | _ => simp [perform, Action.reference?, mapRegistry]

/-- A plan notes its resolvers for a model with renamed fields, in order. -/
theorem fieldMaps_after (plan : List Action) (out : Output) (model : String) :
    (out.after plan).renames.fieldMaps.get? model =
      (out.renames.fieldMaps.get? model).map fun m =>
        if m.fields.isEmpty then m else (plan.filterMap (Action.reference? model)).foldl FieldMap.refer m := by
  have hfields : ∀ (m : FieldMap) (reference : ResolverReference), (m.refer reference).fields = m.fields := by
    intro m reference
    unfold FieldMap.refer
    split <;> rfl
  induction plan generalizing out with
  | nil => simp
  | cons a plan ih =>
    rw [after_cons, ih, fieldMaps_perform, Option.map_map, List.filterMap_cons]
    congr 1
    funext m
    by_cases hm : m.fields = []
    · simp [hm]
    · cases a.reference? model with
      | none => simp [hm]
      | some reference => simp [hm, hfields]

end Output

/-! ## the resolvers that a plan notes -/

/-- The resolvers that the plan notes for a model are among those that it adds, in the same order. -/
def Action.NotesAdded (model : String) (plan : List Action) : Prop :=
  ((plan.filterMap (Action.reference? model)).map (·.key)).Sublist (plan.filterMap Action.key?)

namespace Action.NotesAdded

variable {model : String} {plan rest : List Action}

theorem append (h : NotesAdded model plan) (hrest : NotesAdded model rest) : NotesAdded model (plan ++ rest) := by
  rw [NotesAdded, List.filterMap_append, List.filterMap_append, List.map_append]
  exact List.Sublist.append h hrest

theorem flatMap {α : Type} {f : α → List Action} {l : List α} (h : ∀ x ∈ l, NotesAdded model (f x)) :
    NotesAdded model (l.flatMap f) := by
  rw [NotesAdded, List.filterMap_flatMap, List.filterMap_flatMap, List.map_flatMap]
  exact List.Sublist.flatMap_right l h

theorem cons {a : Action} (ha : a.reference? model = none) (h : NotesAdded model plan) :
    NotesAdded model (a :: plan) := by
  rw [NotesAdded, List.filterMap_cons_none ha]
  exact h.trans ((List.sublist_cons_self a plan).filterMap _)

/-- A plan that notes nothing. -/
theorem of_none (h : ∀ a ∈ plan, a.reference? model = none) : NotesAdded model plan := by
  rw [NotesAdded, List.filterMap_eq_nil_iff.2 h]
  exact List.nil_sublist _

end Action.NotesAdded

namespace Project

variable {p : Project} {stored : String → String} {d : Declarations} {model : String}

theorem linesPlan_notes {model' : String} {entries : List (Operation × List String)} :
    ∀ a ∈ p.linesPlan model' entries, a.reference? model = none := by
  intro a ha
  obtain ⟨-, -, -, -, rfl⟩ := mem_linesPlan.1 ha
  rfl

theorem syncPlan_notes {model' name : String} {k : Key} :
    ∀ a ∈ p.syncPlan model' name k, a.reference? model = none := by
  intro a ha
  obtain ⟨-, -, -, rfl⟩ := mem_syncPlan.1 ha
  rfl

theorem primaryKeyPlan_notes {k : PrimaryKey} : ∀ a ∈ p.primaryKeyPlan k, a.reference? model = none := by
  intro a ha
  rcases mem_primaryKeyPlan.1 ha with ha | ⟨-, rfl | ha⟩
  · exact linesPlan_notes a ha
  · rfl
  · exact syncPlan_notes a ha

theorem sqlFieldPlan_notes {f : SqlField} : ∀ a ∈ p.sqlFieldPlan f, a.reference? model = none := by
  intro a ha
  obtain ⟨-, -, rfl⟩ | rfl := mem_sqlFieldPlan.1 ha <;> rfl

theorem modelPlan_notes (m : Model) : Action.NotesAdded model (p.modelPlan stored m) := by
  unfold modelPlan
  split
  · exact .of_none nofun
  · split
    · refine .of_none fun a ha => ?_
      rcases List.mem_cons.1 ha with rfl | ha
      · rfl
      · simp only [itemOperationPlan, List.mem_flatMap, List.mem_map] at ha
        obtain ⟨o, -, other, -, rfl⟩ := ha
        rfl
    · refine .cons rfl (.flatMap fun o _ => ?_)
      unfold sqlOperationPlan Action.NotesAdded
      cases m.key? o with
      | none => exact List.Sublist.refl _
      | some key =>
        by_cases h : m.name = model
        · simp [List.filterMap_cons, Action.reference?, Action.key?, h, ResolverReference.key]
        · simp [List.filterMap_cons, Action.reference?, h]

theorem queryPlan_notes (i : Index) : Action.NotesAdded model (p.queryPlan stored i) := by
  unfold queryPlan Action.NotesAdded
  cases i.queryField with
  | none => exact List.Sublist.refl _
  | some field =>
    cases p.isSqlModel i.model with
    | false => simp [List.filterMap_cons, Action.reference?]
    | true =>
      by_cases h : i.model = model
      · simp [List.filterMap_cons, Action.reference?, Action.key?, h, ResolverReference.key]
      · simp [List.filterMap_cons, Action.reference?, h]

theorem plan_notes : Action.NotesAdded model (p.plan stored d) := by
  refine .append (.flatMap fun m _ => modelPlan_notes m) (.append (.append ?_ ?_) ?_)
  · exact .flatMap fun k _ => .of_none primaryKeyPlan_notes
  · refine .flatMap fun i _ => ?_
    unfold indexPlan
    split
    · exact queryPlan_notes i
    · exact .cons rfl (.append (.of_none linesPlan_notes) (.append (queryPlan_notes i) (.of_none syncPlan_notes)))
  · exact .flatMap fun f _ => .of_none sqlFieldPlan_notes

/-! ## whom they serve -/

theorem not_refer_of_notes {plan : List Action} {reference : ResolverReference}
    (h : ∀ a ∈ plan, a.reference? model = none) : .refer model reference ∉ plan := by
  intro hmem
  have hnone := h _ hmem
  simp [Action.reference?] at hnone

theorem refer_modelPlan {m : Model} {reference : ResolverReference}
    (h : .refer model reference ∈ p.modelPlan stored m) :
    m.name = model ∧ p.isSqlModel model = true ∧ ∃ o ∈ p.operations m, m.key? o = some reference.key := by
  obtain ⟨s, hs, ⟨_, -, heq | ⟨_, -, _, -, heq⟩⟩ | ⟨hprovisioning, heq | ⟨o, ho, key, hkey, heq | heq⟩⟩⟩ :=
    mem_modelPlan.1 h <;> cases heq
  have hsql := isSqlModel_eq hs
  rw [hprovisioning] at hsql
  exact ⟨rfl, hsql, o, ho, hkey⟩

theorem refer_queryPlan {i : Index} {reference : ResolverReference}
    (h : .refer model reference ∈ p.queryPlan stored i) :
    i.model = model ∧ p.isSqlModel model = true ∧
      ∃ field, i.queryField = some field ∧ reference.key = ⟨queryType, field⟩ := by
  obtain ⟨field, hfield, heq | ⟨hsql, heq⟩⟩ := mem_queryPlan.1 h <;> cases heq
  exact ⟨rfl, hsql, field, hfield, rfl⟩

/-- Only relational models note resolvers, and only those that serve them. -/
theorem refer_cases (hd : p.models = d.models) {reference : ResolverReference}
    (h : .refer model reference ∈ p.plan stored d) :
    (model, reference.key) ∈ d.served p.config.usesSync ∧ p.isSqlModel model = true := by
  simp only [plan, List.mem_append, List.mem_flatMap] at h
  rcases h with ⟨m, hm, h⟩ | (⟨k, -, h⟩ | ⟨i, hi, h⟩) | ⟨f, -, h⟩
  · obtain ⟨rfl, hsql, o, ho, hkey⟩ := refer_modelPlan h
    exact ⟨mem_served_of_operation (hd ▸ hm) ho hkey, hsql⟩
  · exact absurd h (not_refer_of_notes primaryKeyPlan_notes)
  · rcases mem_indexPlan.1 h with h | ⟨-, heq | h | h⟩
    · obtain ⟨rfl, hsql, field, hfield, hkey⟩ := refer_queryPlan h
      rw [hkey]
      exact ⟨Declarations.mem_served_of_query hi hfield, hsql⟩
    · cases heq
    · exact absurd h (not_refer_of_notes linesPlan_notes)
    · exact absurd h (not_refer_of_notes syncPlan_notes)
  · exact absurd h (not_refer_of_notes sqlFieldPlan_notes)

/-- A relational model notes every resolver that serves it. -/
theorem mem_refer (hp : p.Grounded) (hd : p.models = d.models) (h : (model, key) ∈ d.served p.config.usesSync)
    (hsql : p.isSqlModel model = true) :
    ∃ reference : ResolverReference, reference.key = key ∧ .refer model reference ∈ p.plan stored d := by
  rcases List.mem_append.1 h with h | h
  · obtain ⟨m, hm, h⟩ := List.mem_flatMap.1 h
    obtain ⟨other, hroot, heq⟩ := List.mem_map.1 h
    cases heq
    rw [← operations_keys] at hroot
    obtain ⟨o, ho, hkey⟩ := List.mem_filterMap.1 hroot
    rw [← hd] at hm
    obtain ⟨s, hs⟩ := Option.isSome_iff_exists.1 (hp.sourced _ (hp.mem_keys hm))
    have hprovisioning : s.provisioning? = none := by
      rw [isSqlModel_eq hs, Option.isNone_iff_eq_none] at hsql
      exact hsql
    refine ⟨⟨key.typeName, key.fieldName, o.isListing⟩, rfl, List.mem_append_left _ (List.mem_flatMap.2 ⟨m, hm, ?_⟩)⟩
    exact mem_modelPlan.2 ⟨s, hs, .inr ⟨hprovisioning, .inr ⟨o, ho, key, hkey, .inl rfl⟩⟩⟩
  · obtain ⟨i, hi, h⟩ := List.mem_flatMap.1 h
    obtain ⟨other, hquery, heq⟩ := List.mem_map.1 h
    cases heq
    obtain ⟨field, hfield, rfl⟩ := Option.map_eq_some_iff.1 (Option.mem_toList.1 hquery)
    refine ⟨⟨queryType, field, false⟩, rfl, List.mem_append_right _ (List.mem_append_left _
      (List.mem_append_right _ (List.mem_flatMap.2 ⟨i, hi, ?_⟩)))⟩
    exact mem_indexPlan.2 (.inl (mem_queryPlan.2 ⟨field, hfield, .inr ⟨hsql, rfl⟩⟩))

/-! ## the renames that get to a resolver -/

theorem refer_of_reference? {a : Action} {reference : ResolverReference} (h : a.reference? model = some reference) :
    a = .refer model reference := by
  cases a with
  | refer other noted =>
    by_cases heq : other = model
    · have hsame : noted = reference := by simpa [Action.reference?, heq] using h
      rw [heq, hsame]
    · simp [Action.reference?, heq] at h
  | _ => cases h

theorem noted_eq_nil {plan : List Action} (h : ∀ reference, .refer model reference ∈ plan → reference.key ≠ key) :
    (plan.filterMap (Action.reference? model)).filter (·.key == key) = [] := by
  refine List.filter_eq_nil_iff.2 fun reference hmem => ?_
  obtain ⟨a, ha, hreference⟩ := List.mem_filterMap.1 hmem
  rw [refer_of_reference? hreference] at ha
  simpa using h reference ha

theorem noted_eq_singleton (hn : ((p.plan stored d).filterMap Action.key?).Nodup) {reference : ResolverReference}
    (h : .refer model reference ∈ p.plan stored d) :
    ((p.plan stored d).filterMap (Action.reference? model)).filter (·.key == reference.key) = [reference] := by
  have hdistinct : (((p.plan stored d).filterMap (Action.reference? model)).map (·.key)).Nodup := plan_notes.nodup hn
  have hmem : reference ∈ (p.plan stored d).filterMap (Action.reference? model) :=
    List.mem_filterMap.2 ⟨_, h, by simp [Action.reference?]⟩
  rw [filter_eq_find?_toList _ hdistinct]
  have hsome : (((p.plan stored d).filterMap (Action.reference? model)).find? (·.key == reference.key)).isSome = true :=
    List.find?_isSome.2 ⟨reference, hmem, beq_self_eq_true _⟩
  obtain ⟨found, hfound⟩ := Option.isSome_iff_exists.1 hsome
  have htest := List.find?_some hfound
  have hkey : found.key = reference.key := by simpa using htest
  rw [hfound, List.inj_on_of_nodup_map hdistinct (List.mem_of_find?_eq_some hfound) hmem hkey]
  rfl

section Texts

variable {out : Output}
  (hmaps : ∀ model m, out.renames.fieldMaps.get? model = some m → m.fields ≠ [] ∧ m.references = [])
  (hn : ((p.plan stored d).filterMap Action.key?).Nodup)
include hmaps hn

/-- In the end a field map has the resolvers that the plan notes for its model. -/
theorem fieldMap_after_plan {m : FieldMap} (hm : out.renames.fieldMaps.get? model = some m) :
    (out.after (p.plan stored d)).renames.fieldMaps.get? model =
      some { m with references := (p.plan stored d).filterMap (Action.reference? model) } := by
  obtain ⟨hfields, hreferences⟩ := hmaps model m hm
  have hdistinct : ((p.plan stored d).filterMap (Action.reference? model)).Nodup :=
    List.Nodup.of_map _ (plan_notes.nodup hn)
  have hfold := FieldMap.foldl_refer _ m (by rw [hreferences]; exact hdistinct)
  rw [Output.fieldMaps_after, hm, Option.map_some, if_neg (by simpa using hfields), hfold, hreferences]
  rfl

theorem textsFor_after_plan {m : FieldMap} (hm : (out.after (p.plan stored d)).renames.fieldMaps.get? model = some m) :
    ∃ first, out.renames.fieldMaps.get? model = some first ∧
      m.textsFor key = (((p.plan stored d).filterMap (Action.reference? model)).filter (·.key == key)).map
        fun _ => fieldMappingTemplate first := by
  have hsome : (out.renames.fieldMaps.get? model).isSome = true := by
    rw [Output.fieldMaps_after] at hm
    obtain ⟨first, hfirst, -⟩ := Option.map_eq_some_iff.1 hm
    simp [hfirst]
  obtain ⟨first, hfirst⟩ := Option.isSome_iff_exists.1 hsome
  rw [fieldMap_after_plan hmaps hn hfirst, Option.some.injEq] at hm
  subst hm
  exact ⟨first, hfirst, if_neg (by simpa using (hmaps model first hfirst).1)⟩

/-- Without being noted, a resolver gets no renames. -/
theorem textsFor_of_unnoted
    (h : ∀ model reference, .refer model reference ∈ p.plan stored d → reference.key ≠ key) :
    (out.after (p.plan stored d)).renames.textsFor key = [] := by
  refine List.flatMap_eq_nil_iff.2 fun m hm => ?_
  obtain ⟨e, he, rfl⟩ := List.mem_map.1 hm
  obtain ⟨first, -, htexts⟩ := textsFor_after_plan hmaps hn (OrderedMap.get?_of_mem _ he)
  rw [htexts, noted_eq_nil fun reference => h e.1 reference]
  rfl

/-- A resolver that serves a relational model gets the renames of its model, if there are any, once. Those that serve
other models get none. -/
theorem textsFor_served (hp : p.Grounded) (hd : p.models = d.models)
    (hserved : (model, key) ∈ d.served p.config.usesSync) :
    (out.after (p.plan stored d)).renames.textsFor key =
      if p.isSqlModel model then (out.renames.fieldMaps.get? model).toList.map fieldMappingTemplate else [] := by
  have hroot : (d.rootFields p.config.usesSync).Nodup := by
    rw [← plan_keys hp stored hd]
    exact hn
  have hmodel : ∀ other reference, .refer other reference ∈ p.plan stored d → reference.key = key → other = model := by
    rintro other reference hrefer rfl
    exact Declarations.served_unique hroot (refer_cases hd hrefer).1 hserved
  cases hsql : p.isSqlModel model with
  | false =>
    refine textsFor_of_unnoted hmaps hn fun other reference hrefer hkey => ?_
    have hother := (refer_cases hd hrefer).2
    rw [hmodel other reference hrefer hkey, hsql] at hother
    cases hother
  | true =>
    -- the field maps of other models do not know the resolver
    have hvalues := OrderedMap.flatMap_values (out.after (p.plan stored d)).renames.fieldMaps (f := (·.textsFor key))
      model fun other m hm hne => by
        obtain ⟨first, -, htexts⟩ := textsFor_after_plan hmaps hn hm
        rw [htexts, noted_eq_nil fun reference hrefer hkey => hne (hmodel other reference hrefer hkey)]
        rfl
    rw [Renames.textsFor, hvalues, if_pos rfl]
    cases hm : out.renames.fieldMaps.get? model with
    | none =>
      rw [Output.fieldMaps_after, hm]
      rfl
    | some m =>
      obtain ⟨reference, rfl, hrefer⟩ : ∃ reference : ResolverReference, reference.key = key ∧
        .refer model reference ∈ p.plan stored d := mem_refer hp hd hserved hsql
      have hafter := fieldMap_after_plan hmaps hn hm
      obtain ⟨first, hfirst, htexts⟩ := textsFor_after_plan hmaps hn hafter
      obtain rfl : m = first := Option.some.inj (hm.symm.trans hfirst)
      rw [hafter, Option.toList_some, List.flatMap_singleton, htexts, noted_eq_singleton hn hrefer]
      rfl

theorem textsFor_statement (hp : p.Grounded) (hd : p.models = d.models) {f : SqlField} (hf : f ∈ d.sqlFields) :
    (out.after (p.plan stored d)).renames.textsFor f.key = [] := by
  have hroot : (d.rootFields p.config.usesSync).Nodup := by
    rw [← plan_keys hp stored hd]
    exact hn
  refine textsFor_of_unnoted hmaps hn fun model reference hrefer => ?_
  exact Declarations.served_ne_statement hroot (refer_cases hd hrefer).1 hf

end Texts

end Project

/-! ## the first slot -/

/-- A template that tells a resolver about renamed fields. -/
def SlotTemplate.IsFieldMapping (t : SlotTemplate) : Prop :=
  ∃ text, t.request = some ("## [Start] Set field mapping. **" ++ text)

theorem isFieldMapping_stashText (m : FieldMap) : (SlotTemplate.mk (some m.stashText) none).IsFieldMapping :=
  ⟨_, congrArg some (by rw [FieldMap.stashText, joinWith, String.append_assoc])⟩

/-- A block under another name is no such template. -/
theorem not_isFieldMapping_printSteps {name : String} {steps : List Expr}
    (h : ∀ text more, Expr.startMark name ++ text ≠ "## [Start] Set field mapping. **" ++ more) :
    ¬ (SlotTemplate.ofRequest (Expr.printSteps name steps)).IsFieldMapping := by
  rintro ⟨text, htext⟩
  have heq := Option.some.inj htext
  simp only [Expr.printSteps, Expr.printBlock, String.append_assoc] at heq
  exact h _ _ heq

theorem not_isFieldMapping_initial {p : Project} {m : Model} {o : Operation} {text : String}
    (h : text ∈ p.initialTemplates m o) : ¬ (SlotTemplate.ofRequest text).IsFieldMapping := by
  rcases List.mem_append.1 h with h | h
  · have hdefault := Option.mem_toList.1 h
    unfold defaultValuesTemplate at hdefault
    dsimp only at hdefault
    split at hdefault
    · cases hdefault
    · cases hdefault
      refine not_isFieldMapping_printSteps fun text more heq => ?_
      simpa [Expr.startMark, String.toList_append] using congrArg String.toList heq
  · split at h
    · obtain ⟨s, -, rfl⟩ := Option.map_eq_some_iff.1 (Option.mem_toList.1 h)
      refine not_isFieldMapping_printSteps fun text more heq => ?_
      simpa [Expr.startMark, String.toList_append] using congrArg String.toList heq
    · cases h

section Document

variable {doc : Document} {config : Config} {d : Declarations} {api : Api}

/-- What a resolver starts with tells nothing about renamed fields. -/
theorem not_isFieldMapping_register {p : Project} {stored : String → String} {resolver : Resolver}
    (h : .register key resolver ∈ p.plan stored d) : ∀ t ∈ resolver.slots.init, ¬ t.IsFieldMapping := by
  rcases Project.register_cases h with ⟨m, -, o, -, -, rfl⟩ | ⟨i, -, field, -, -, rfl⟩ | ⟨f, -, -, rfl⟩
  · intro t ht
    have hinit : (p.modelResolver stored m o key).slots.init = (p.initialTemplates m o).map .ofRequest :=
      Resolver.get_addRequests _ .init .init _
    rw [hinit] at ht
    obtain ⟨text, htext, rfl⟩ := List.mem_map.1 ht
    exact not_isFieldMapping_initial htext
  · exact nofun
  · exact nofun

/-- The renames come last in the first slot, behind what the resolver started with. -/
theorem init_of_compiled (h : compileDocument doc config = .ok api)
    (hd : collect doc config (config.sourcesOf doc) = .ok d) {r : Resolver} (hr : api.registry.get? key = some r) :
    ∃ before, (∀ t ∈ before, ¬ t.IsFieldMapping) ∧
      r.slots.init = before ++ (api.renames.textsFor key).map .ofRequest := by
  obtain ⟨resolver, hmem, hcore⟩ := resolver_of_compiled h hd hr
  refine ⟨resolver.slots.init, not_isFieldMapping_register hmem, ?_⟩
  calc r.slots.init = r.core.slots.get .init := rfl
    _ = resolver.core.slots.get .init ++ (api.renames.textsFor key).map .ofRequest := by
      rw [hcore, Resolver.get_addRequests, if_pos rfl]
    _ = _ := rfl

theorem FieldMap.fields_foldl_rename_ne_nil {renames : List FieldRename} (h : renames ≠ []) :
    (renames.foldl FieldMap.rename {}).fields ≠ [] := by
  intro hempty
  obtain ⟨r, hr⟩ := List.exists_mem_of_ne_nil _ h
  have hrenamed := ((records_foldl_rename _).current_mem r.current).2 ⟨r, hr, rfl⟩
  rw [hempty] at hrenamed
  cases hrenamed

/-- The field maps that a build starts with have fields, and no resolvers yet. -/
theorem fieldMaps_of_collect (hd : collect doc config (config.sourcesOf doc) = .ok d) (model : String) (m : FieldMap)
    (hm : d.renames.fieldMaps.get? model = some m) : m.fields ≠ [] ∧ m.references = [] := by
  rw [collect_fieldMaps hd] at hm
  split at hm
  next => cases hm
  next hsome =>
    obtain rfl := Option.some.inj hm
    exact ⟨FieldMap.fields_foldl_rename_ne_nil hsome, FieldMap.references_foldl_rename _ _⟩

theorem mem_modelNames_of_served (hd : collect doc config (config.sourcesOf doc) = .ok d) {sync : Bool}
    {model : String} (h : (model, key) ∈ d.served sync) : model ∈ doc.modelNames := by
  have hkeys : ∀ name ∈ d.models.keys, name ∈ doc.modelNames := by
    intro name hname
    obtain ⟨e, he, rfl⟩ := List.mem_map.1 hname
    exact ((collect_grounded hd).models e he).2
  rcases List.mem_append.1 h with h | h
  · obtain ⟨m, hm, h⟩ := List.mem_flatMap.1 h
    obtain ⟨other, -, heq⟩ := List.mem_map.1 h
    cases heq
    exact hkeys _ ((projectOf_grounded hd).mem_keys hm)
  · obtain ⟨i, hi, h⟩ := List.mem_flatMap.1 h
    obtain ⟨other, -, heq⟩ := List.mem_map.1 h
    cases heq
    exact hkeys _ ((collect_grounded hd).indexes i hi)

theorem isSqlModel_projectOf {model : String} (h : model ∈ doc.modelNames) :
    (projectOf config doc d).isSqlModel model = (config.strategyOf model).isSql := by
  simp [Project.isSqlModel, DataSources.isSqlModel, projectOf, sourcesOf_get? h]

/-- A relational model with at least one renamed field. -/
def Schema.Document.HasRenamedFields (doc : Document) (config : Config) (model : String) : Prop :=
  (config.strategyOf model).isSql = true ∧
    ∃ f ∈ doc.objectFields model, f.hasDirective RenameKind.refersTo.directive = true

/-- The renames that get to a resolver that serves a model. -/
theorem textsFor_compiled (h : compileDocument doc config = .ok api)
    (hd : collect doc config (config.sourcesOf doc) = .ok d) {model : String}
    (hserved : (model, key) ∈ d.served config.usesSync) :
    (¬ doc.HasRenamedFields config model → api.renames.textsFor key = []) ∧
    (doc.HasRenamedFields config model → api.renames.textsFor key =
      [((doc.fieldRenames model).foldl FieldMap.rename {}).stashText]) := by
  obtain ⟨hu, -⟩ := collect_of_compileDocument h
  obtain ⟨⟨-, hfree⟩, rfl⟩ := (compileDocument_eq_ok hu hd).1 h
  let p := projectOf config doc d
  have htexts : (d.start.after (p.plan d.renames.storedModel d)).renames.textsFor key =
      if p.isSqlModel model then (d.renames.fieldMaps.get? model).toList.map fieldMappingTemplate else [] :=
    Project.textsFor_served (fieldMaps_of_collect hd) (List.nodup_append.1 hfree).2.1 (projectOf_grounded hd) rfl
      hserved
  have hrenamed : doc.fieldRenames model ≠ [] ↔
      ∃ f ∈ doc.objectFields model, f.hasDirective RenameKind.refersTo.directive = true := by
    refine ⟨fun hne => ?_, fun ⟨f, hf, hdirective⟩ hempty => ?_⟩
    · obtain ⟨r, hr⟩ := List.exists_mem_of_ne_nil _ hne
      obtain ⟨f, hf, -, hdirective⟩ := (current_mem_fieldRenames hd).1 ⟨r, hr, rfl⟩
      exact ⟨f, hf, hdirective⟩
    · obtain ⟨r, hr, -⟩ := (current_mem_fieldRenames hd).2 ⟨f, hf, rfl, hdirective⟩
      rw [hempty] at hr
      cases hr
  have hsql : p.isSqlModel model = (config.strategyOf model).isSql :=
    isSqlModel_projectOf (mem_modelNames_of_served hd hserved)
  rw [hsql, collect_fieldMaps hd] at htexts
  refine ⟨fun hnot => htexts.trans ?_, fun hhas => htexts.trans ?_⟩
  · split
    next hrelational =>
      have hnone : doc.fieldRenames model = [] := by
        by_contra hne
        exact hnot ⟨hrelational, hrenamed.1 hne⟩
      rw [if_pos hnone]
      rfl
    next => rfl
  · rw [if_pos hhas.1, if_neg (hrenamed.2 hhas.2), ← fieldMappingTemplate_eq
      (FieldMap.fields_foldl_rename_ne_nil (hrenamed.2 hhas.2))]
    rfl

end Document

/-- Books in a database, with one field renamed twice and another one once, shelves in a table, and a count. -/
def library : Document := ⟨[
  .type ⟨⟨1, 1⟩, "Book", false, .object [
    ⟨"id", [], .named "ID" false, [⟨"primaryKey", ⟨2, 11⟩, []⟩]⟩,
    ⟨"title", [], .named "String" true,
      [⟨"refersTo", ⟨3, 17⟩, [("name", .str "name")]⟩, ⟨"refersTo", ⟨3, 42⟩, [("name", .str "book_title")]⟩]⟩,
    ⟨"author", [], .named "ID" false,
      [⟨"index", ⟨4, 15⟩, [("name", .str "byAuthor"), ("queryField", .str "booksByAuthor")]⟩,
        ⟨"refersTo", ⟨4, 65⟩, [("name", .str "author_id")]⟩]⟩], [⟨"model", ⟨1, 11⟩, []⟩]⟩,
  .type ⟨⟨7, 1⟩, "Shelf", false, .object [⟨"id", [], .named "ID" false, []⟩], [⟨"model", ⟨7, 12⟩, []⟩]⟩,
  .type ⟨⟨10, 1⟩, "Query", false, .object [
    ⟨"countBooks", [], .named "Int" true, [⟨"sql", ⟨11, 19⟩, [("statement", .str "SELECT COUNT(*) FROM Book")]⟩]⟩],
    []⟩]⟩

/-- The database of the books. -/
def libraryConfig : Config :=
  { dataSources := .ofList
      [("Book", .mysql ⟨"db", ⟨"host", "port", "user", "password", "name"⟩, none, .empty, none⟩)] }

/-- The renames of the fields of books, as they are stashed. -/
def libraryRenames : String := joinWith "\n" [
  "## [Start] Set field mapping. **",
  "$util.qr($ctx.stash.put(\"fieldMap\", \x7b",
  "  \"title\": \"book_title\",",
  "  \"author\": \"author_id\"",
  "\x7d))",
  "\x7b\x7d",
  "## [End] Set field mapping. **"]

end ModelApi
