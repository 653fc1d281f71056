import ModelApi.Proofs.Directive.Rules

/-!
# What a document that passes declares

When nothing is misused, the declarations come from a run in which every rule accepts every occurrence it handles.

* `collect_eq_ok`: the run as one fold in `Except`;
* `foldlM_preserves` and `foldlM_passes`: what every step keeps holds at the end, and every step was taken;
* `collect_grounded`: models are among the model names of the document, and keys and indexes belong to models.
-/

namespace ModelApi

open Schema (Document TypeDef)

/-! ## folds that may fail -/

section Fold

variable {σ α ε : Type} {f : σ → α → Except ε σ}

/-- What every step keeps holds at the end. -/
theorem foldlM_preserves {P : σ → Prop} {l : List α} (hstep : ∀ a ∈ l, ∀ s s', P s → f s a = .ok s' → P s')
    {s s' : σ} (h : l.foldlM f s = .ok s') (h0 : P s) : P s' := by
  induction l generalizing s with
  | nil =>
    cases h
    exact h0
  | cons a l ih =>
    rw [List.foldlM_cons, bind_eq_ok] at h
    obtain ⟨t, ht, h⟩ := h
    exact ih (fun b hb => hstep b (List.mem_cons_of_mem _ hb)) h (hstep a List.mem_cons_self s t h0 ht)

/-- Every step was taken, and what later steps only extend is there at the end. -/
theorem foldlM_passes {R : σ → σ → Prop} (hrefl : ∀ s, R s s) (htrans : ∀ {s t u}, R s t → R t u → R s u) {l : List α}
    (hstep : ∀ a ∈ l, ∀ s s', f s a = .ok s' → R s s') {s s' : σ} (h : l.foldlM f s = .ok s') {a : α} (ha : a ∈ l) :
    ∃ before after, f before a = .ok after ∧ R after s' := by
  induction l generalizing s with
  | nil => cases ha
  | cons b l ih =>
    rw [List.foldlM_cons, bind_eq_ok] at h
    obtain ⟨t, ht, h⟩ := h
    have hrest : ∀ c ∈ l, ∀ s s', f s c = .ok s' → R s s' := fun c hc => hstep c (List.mem_cons_of_mem _ hc)
    rcases List.mem_cons.1 ha with rfl | ha
    · refine ⟨s, t, ht, ?_⟩
      exact foldlM_preserves (P := R t) (fun c hc u u' hu hu' => htrans hu (hrest c hc u u' hu')) h (hrefl t)
    · exact ih hrest h ha

end Fold

/-! ## the run -/

/-- What a rule makes of an occurrence; it passes over directives that it does not handle. -/
def Rule.accept (rule : Rule) (o : Occurrence) (d : Declarations) : Except Misuse Declarations :=
  if rule.directives.contains o.directive.name then rule.declare o d else .ok d

theorem Rule.accept_eq_ok {rule : Rule} {o : Occurrence} {d d' : Declarations} (h : rule.accept o d = .ok d') :
    (o.directive.name ∈ rule.directives ∧ rule.declare o d = .ok d') ∨ d' = d := by
  unfold accept at h
  split at h
  · rename_i hc
    exact .inl ⟨by simpa using hc, h⟩
  · cases h
    exact .inr rfl

/-- Every rule with every occurrence, in the order of the visit. -/
def visits (rules : List Rule) (doc : Document) : List (Rule × Occurrence) :=
  doc.occurrences.flatMap fun o => rules.map (·, o)

theorem mem_visits {rules : List Rule} {doc : Document} {rule : Rule} {o : Occurrence} :
    (rule, o) ∈ visits rules doc ↔ rule ∈ rules ∧ o ∈ doc.occurrences := by
  simp only [visits, List.mem_flatMap, List.mem_map, Prod.mk.injEq]
  constructor
  · rintro ⟨o', ho', rule', hr, rfl, rfl⟩
    exact ⟨hr, ho'⟩
  · rintro ⟨hr, ho⟩
    exact ⟨o, ho, rule, hr, rfl, rfl⟩

theorem visitAll_eq (rules : List Rule) (doc : Document) :
    visitAll rules doc = (visits rules doc).foldl (fun v s => s.1.visit s.2 v) {} := by
  unfold visitAll visits
  rw [List.foldl_flatMap]
  congr 1
  funext v o
  rw [List.foldl_map]
  rfl

theorem Rule.visit_eq (rule : Rule) (o : Occurrence) (v : Visit) :
    rule.visit o v = match rule.accept o v.declared with
      | .ok declared => { v with declared }
      | .error misuse => { v with errors := v.errors ++ [⟨o.directive.pos, misuse⟩] } := by
  unfold visit accept
  split <;> rfl

/-- When no visit reports an error, each was accepted. -/
theorem foldl_visit_clean : ∀ (steps : List (Rule × Occurrence)) (v : Visit),
    (steps.foldl (fun v s => s.1.visit s.2 v) v).errors = [] →
    v.errors = [] ∧ steps.foldlM (fun d s => s.1.accept s.2 d) v.declared =
      .ok (steps.foldl (fun v s => s.1.visit s.2 v) v).declared
  | [], v, h => ⟨h, rfl⟩
  | s :: steps, v, h => by
    rw [List.foldl_cons] at h
    obtain ⟨hv, hrun⟩ := foldl_visit_clean steps (s.1.visit s.2 v) h
    rw [Rule.visit_eq] at hv hrun
    rw [List.foldlM_cons, List.foldl_cons, Rule.visit_eq]
    cases ha : s.1.accept s.2 v.declared with
    | error misuse =>
      rw [ha] at hv
      simp at hv
    | ok declared =>
      rw [ha] at hv hrun
      exact ⟨hv, hrun⟩

/-- The declarations of a document that passes are what its rules accept. -/
theorem collect_eq_ok {doc : Document} {config : Config} {sources : DataSources} {d : Declarations}
    (h : collect doc config sources = .ok d) :
    (visits (rules doc config sources) doc).foldlM (fun d s => s.1.accept s.2 d) {} = .ok d := by
  unfold collect at h
  dsimp only at h
  split at h
  · rename_i he
    rw [List.isEmpty_iff, visitAll_eq] at he
    obtain ⟨-, hrun⟩ := foldl_visit_clean _ _ he
    rw [← visitAll_eq] at hrun
    cases h
    exact hrun
  · cases h

/-! ## occurrences -/

/-- Where an occurrence stands. -/
theorem mem_occurrences {doc : Document} {o : Occurrence} (h : o ∈ doc.occurrences) :
    o.owner ∈ doc.types ∧ ((o.field = none ∧ o.directive ∈ o.owner.directives) ∨
      ∃ f, o.field = some f ∧ f ∈ o.owner.kind.objectFields ∧ o.directive ∈ f.directives) := by
  obtain ⟨t, ht, ho⟩ := List.mem_flatMap.1 h
  rcases List.mem_append.1 ho with ho | ho
  · obtain ⟨dir, hdir, rfl⟩ := List.mem_map.1 ho
    exact ⟨ht, .inl ⟨rfl, hdir⟩⟩
  · obtain ⟨f, hf, ho⟩ := List.mem_flatMap.1 ho
    obtain ⟨dir, hdir, rfl⟩ := List.mem_map.1 ho
    exact ⟨ht, .inr ⟨f, rfl, hf, hdir⟩⟩

theorem isObject_of_mem_objectFields {kind : Schema.TypeKind} {f : Schema.FieldDef} (h : f ∈ kind.objectFields) :
    kind.isObject = true := by
  cases kind with
  | object fields => rfl
  | _ => cases h

/-- A directive on a type definition is visited. -/
theorem occurrence_of_directive {doc : Document} {t : TypeDef} {dir : Schema.Directive} (ht : t ∈ doc.types)
    (hdir : dir ∈ t.directives) : (⟨dir, t, none⟩ : Occurrence) ∈ doc.occurrences :=
  List.mem_flatMap.2 ⟨t, ht, List.mem_append_left _ (List.mem_map.2 ⟨dir, hdir, rfl⟩)⟩

/-! ## models, keys and indexes -/

theorem mem_distinct {a : String} : ∀ {l : List String}, a ∈ Schema.distinct l ↔ a ∈ l
  | [] => Iff.rfl
  | b :: l => by
    rw [Schema.distinct, List.mem_cons, List.mem_filter, mem_distinct, List.mem_cons]
    by_cases h : a = b
    · simp [h]
    · simp [h]

theorem mem_modelNames {doc : Document} {t : TypeDef} (ht : t ∈ doc.types) (hkind : t.kind.isObject = true)
    (hmodel : isModelDef t = true) : t.name ∈ doc.modelNames := by
  refine List.mem_filter.2 ⟨mem_distinct.2 (List.mem_map_of_mem ht), ?_⟩
  refine List.any_eq_true.2 ⟨t, List.mem_filter.2 ⟨ht, by simp⟩, ?_⟩
  exact Bool.and_eq_true_iff.2 ⟨hkind, hmodel⟩

/-- The name of an object type that a definition in the document makes a model. -/
def Schema.Document.Modeled (doc : Document) (name : String) : Prop :=
  ∃ t ∈ doc.types, t.kind.isObject = true ∧ isModelDef t = true ∧ t.name = name

/-- A key directive that is accepted stands on a field of a model. -/
theorem modeled_of_field {doc : Document} {o : Occurrence} {field : Schema.FieldDef} (ho : o ∈ doc.occurrences)
    (hfield : o.field = some field) (hmodel : isModelDef o.owner = true) : doc.Modeled o.owner.name := by
  obtain ⟨ht, ⟨hnone, -⟩ | ⟨f, -, hf, -⟩⟩ := mem_occurrences ho
  · rw [hfield] at hnone
    cases hnone
  · exact ⟨o.owner, ht, isObject_of_mem_objectFields hf, hmodel, rfl⟩

/-- The parts of the declarations that refer to models. -/
structure Declarations.FromDocument (doc : Document) (d : Declarations) : Prop where
  models : ∀ e ∈ d.models.entries, e.2.name = e.1 ∧ e.1 ∈ doc.modelNames
  primaryKeys : ∀ k ∈ d.primaryKeys, doc.Modeled k.model
  indexes : ∀ i ∈ d.indexes, doc.Modeled i.model

/-- One case for each rule. -/
theorem mem_rules {doc : Document} {config : Config} {sources : DataSources} {rule : Rule}
    (h : rule ∈ rules doc config sources) :
    rule = modelRule ∨ rule = primaryKeyRule doc ∨ rule = indexRule doc ∨ rule = sqlRule config ∨
      rule = renameRule sources := by
  simpa [rules] using h

theorem Declarations.FromDocument.accept {doc : Document} {config : Config} {sources : DataSources} {rule : Rule}
    {o : Occurrence} {d d' : Declarations} (hrule : rule ∈ rules doc config sources) (ho : o ∈ doc.occurrences)
    (hd : d.FromDocument doc) (h : rule.accept o d = .ok d') : d'.FromDocument doc := by
  rcases (Rule.accept_eq_ok h).symm with rfl | ⟨hname, h⟩
  · exact hd
  -- only the first three rules declare models, keys or indexes
  rcases mem_rules hrule with rfl | rfl | rfl | rfl | rfl
  · obtain ⟨⟨hfield, hkind⟩, -, a, -, rfl⟩ := modelRule_eq_ok.1 h
    refine ⟨fun e he => ?_, hd.primaryKeys, hd.indexes⟩
    obtain ⟨ht, ⟨-, hdir⟩ | ⟨f, hf, -⟩⟩ := mem_occurrences ho
    · have hmodel : isModelDef o.owner = true :=
        List.any_eq_true.2 ⟨o.directive, hdir, by simpa [modelRule] using hname⟩
      have hget := OrderedMap.get?_of_mem _ he
      rw [OrderedMap.get?_insert] at hget
      split at hget
      · rename_i heq
        rw [heq, ← Option.some.inj hget]
        exact ⟨rfl, mem_modelNames ht hkind hmodel⟩
      · exact hd.models e (OrderedMap.mem_of_get? _ hget)
    · rw [hfield] at hf
      cases hf
  · obtain ⟨field, ⟨hfield, hmodel⟩, -, sort, -, key, -, -, rfl⟩ := primaryKeyRule_eq_ok.1 h
    refine ⟨hd.models, fun k hk => ?_, hd.indexes⟩
    rcases List.mem_append.1 hk with hk | hk
    · exact hd.primaryKeys k hk
    · rw [List.mem_singleton.1 hk]
      exact modeled_of_field ho hfield hmodel
  · obtain ⟨field, ⟨hfield, hmodel⟩, a, -, -, key, -, rfl⟩ := indexRule_eq_ok.1 h
    refine ⟨hd.models, hd.primaryKeys, fun i hi => ?_⟩
    rcases List.mem_append.1 hi with hi | hi
    · exact hd.indexes i hi
    · rw [List.mem_singleton.1 hi]
      exact modeled_of_field ho hfield hmodel
  · obtain ⟨field, -, -, a, -, statement, -, rfl⟩ := sqlRule_eq_ok.1 h
    exact ⟨hd.models, hd.primaryKeys, hd.indexes⟩
  · obtain ⟨-, name, -, -, ⟨-, rfl⟩ | ⟨field, -, -, rfl⟩⟩ := renameRule_eq_ok.1 h
    all_goals exact ⟨hd.models, hd.primaryKeys, hd.indexes⟩

/-- No rule takes a model away. -/
theorem models_subset_of_accept {doc : Document} {config : Config} {sources : DataSources} {rule : Rule}
    {o : Occurrence} {d d' : Declarations} (hrule : rule ∈ rules doc config sources) (h : rule.accept o d = .ok d') :
    d.models.keys ⊆ d'.models.keys := by
  rcases (Rule.accept_eq_ok h).symm with rfl | ⟨-, h⟩
  · exact fun _ hm => hm
  rcases mem_rules hrule with rfl | rfl | rfl | rfl | rfl
  · obtain ⟨-, -, a, -, rfl⟩ := modelRule_eq_ok.1 h
    exact fun name hm => (OrderedMap.mem_keys_insert _).2 (.inr hm)
  · obtain ⟨field, -, -, sort, -, key, -, -, rfl⟩ := primaryKeyRule_eq_ok.1 h
    exact fun _ hm => hm
  · obtain ⟨field, -, a, -, -, key, -, rfl⟩ := indexRule_eq_ok.1 h
    exact fun _ hm => hm
  · obtain ⟨field, -, -, a, -, statement, -, rfl⟩ := sqlRule_eq_ok.1 h
    exact fun _ hm => hm
  · obtain ⟨-, name, -, -, ⟨-, rfl⟩ | ⟨field, -, -, rfl⟩⟩ := renameRule_eq_ok.1 h
    all_goals exact fun _ hm => hm

section Collected

variable {doc : Document} {config : Config} {sources : DataSources} {d : Declarations}

/-- Every model of the document is declared. -/
theorem modeled_mem_models (h : collect doc config sources = .ok d) {name : String} (hm : doc.Modeled name) :
    name ∈ d.models.keys := by
  obtain ⟨t, ht, hkind, hmodel, rfl⟩ := hm
  obtain ⟨dir, hdir, hname⟩ := List.any_eq_true.1 hmodel
  have hvisit : (modelRule, (⟨dir, t, none⟩ : Occurrence)) ∈ visits (rules doc config sources) doc :=
    mem_visits.2 ⟨by simp [rules], occurrence_of_directive ht hdir⟩
  -- at some point the directive was visited and accepted, and models are never taken away after that
  obtain ⟨before, after, haccept, hsub⟩ := foldlM_passes (R := fun d d' => d.models.keys ⊆ d'.models.keys)
    (fun _ => List.Subset.refl _) (fun h₁ h₂ => List.Subset.trans h₁ h₂)
    (fun s hs _ _ hacc => models_subset_of_accept (mem_visits.1 hs).1 hacc) (collect_eq_ok h) hvisit
  have hhandles : modelRule.directives.contains dir.name = true := by
    rw [beq_iff_eq] at hname
    simp [modelRule, hname]
  unfold Rule.accept at haccept
  rw [if_pos hhandles] at haccept
  obtain ⟨-, -, a, -, rfl⟩ := modelRule_eq_ok.1 haccept
  exact hsub ((OrderedMap.mem_keys_insert _).2 (.inl rfl))

/-- Models go by their names and are model names of the document; keys and indexes belong to models. -/
structure Declarations.Grounded (doc : Document) (d : Declarations) : Prop where
  models : ∀ e ∈ d.models.entries, e.2.name = e.1 ∧ e.1 ∈ doc.modelNames
  primaryKeys : ∀ k ∈ d.primaryKeys, k.model ∈ d.models.keys
  indexes : ∀ i ∈ d.indexes, i.model ∈ d.models.keys

theorem collect_grounded (h : collect doc config sources = .ok d) : d.Grounded doc := by
  have hd : d.FromDocument doc := by
    refine foldlM_preserves (fun s hs _ _ hd hacc => ?_) (collect_eq_ok h) ⟨?_, ?_, ?_⟩
    · obtain ⟨hrule, ho⟩ := mem_visits.1 hs
      exact hd.accept hrule ho hacc
    all_goals exact fun _ hm => nomatch hm
  exact ⟨hd.models, fun k hk => modeled_mem_models h (hd.primaryKeys k hk),
    fun i hi => modeled_mem_models h (hd.indexes i hi)⟩

end Collected

end ModelApi
