import Mathlib.Data.List.Forall2
import ModelApi.Proofs.Directive.WellFormed

/-!
# One occurrence at a time

No directive is handled by two rules. An occurrence is therefore settled by the one rule that handles it, and collecting
is a single run over the occurrences of the document.

* `takeStep`: what all rules together make of an occurrence;
* `step_cases`: one case for each rule;
* `collect_eq_ok_iff`: what a document declares is what the run over its occurrences ends with;
* `collect_modelOwners`: the models are those of the `@model` directives, in their order;
* `collect_indexes`: the indexes are those of the `@index` directives, one for each and in their order.
-/

namespace ModelApi

open Schema (Document FieldDef)

/-- What all rules together make of an occurrence. -/
def takeStep (rules : List Rule) (o : Occurrence) (d : Declarations) : Except Misuse Declarations :=
  rules.foldlM (fun d rule => rule.accept o d) d

/-! ## one rule for each directive -/

/-- No directive is handled by both rules. -/
def Rule.Apart (rule other : Rule) : Prop := ∀ name ∈ rule.directives, name ∉ other.directives

theorem Rule.accept_of_notMem {rule : Rule} {o : Occurrence} (h : o.directive.name ∉ rule.directives)
    (d : Declarations) : rule.accept o d = .ok d := by
  have hpassed : rule.directives.contains o.directive.name = false := by simpa using h
  rw [accept, hpassed]
  rfl

theorem Rule.accept_of_mem {rule : Rule} {o : Occurrence} (h : o.directive.name ∈ rule.directives)
    (d : Declarations) : rule.accept o d = rule.declare o d := by
  have hhandled : rule.directives.contains o.directive.name = true := by simpa using h
  rw [accept, if_pos hhandled]

theorem takeStep_of_notMem {rules : List Rule} {o : Occurrence} (h : ∀ rule ∈ rules, o.directive.name ∉ rule.directives)
    (d : Declarations) : takeStep rules o d = .ok d := by
  induction rules with
  | nil => rfl
  | cons rule rules ih =>
    rw [takeStep, List.foldlM_cons, Rule.accept_of_notMem (h rule List.mem_cons_self)]
    exact ih fun other hother => h other (List.mem_cons_of_mem _ hother)

/-- The rule that handles a directive has the only say. -/
theorem takeStep_of_mem {rules : List Rule} (hapart : rules.Pairwise Rule.Apart) {rule : Rule} (hrule : rule ∈ rules)
    {o : Occurrence} (ho : o.directive.name ∈ rule.directives) (d : Declarations) :
    takeStep rules o d = rule.declare o d := by
  induction rules with
  | nil => cases hrule
  | cons first rules ih =>
    rw [List.pairwise_cons] at hapart
    rw [takeStep, List.foldlM_cons]
    rcases List.mem_cons.1 hrule with rfl | hrest
    · rw [Rule.accept_of_mem ho]
      have hothers : ∀ t, takeStep rules o t = .ok t :=
        takeStep_of_notMem fun other hother => hapart.1 other hother _ ho
      cases hd : rule.declare o d with
      | error e => rfl
      | ok t => exact hothers t
    · have hfirst : o.directive.name ∉ first.directives := fun hmem => hapart.1 rule hrest _ hmem ho
      rw [Rule.accept_of_notMem hfirst]
      exact ih hapart.2 hrest

section Run

variable {doc : Document} {config : Config} {sources : DataSources} {o : Occurrence} {d d' : Declarations}

theorem rules_apart : (rules doc config sources).Pairwise Rule.Apart := by
  simp [rules, Rule.Apart, modelRule, primaryKeyRule, indexRule, sqlRule, renameRule, Schema.modelDirective,
    primaryKeyDirective, indexDirective, RenameKind.directive]

/-- What a step does, by the rule that handles the directive. -/
theorem step_cases (h : takeStep (rules doc config sources) o d = .ok d') :
    (o.directive.name = Schema.modelDirective ∧ modelRule.declare o d = .ok d') ∨
      (o.directive.name = primaryKeyDirective ∧ (primaryKeyRule doc).declare o d = .ok d') ∨
      (o.directive.name = indexDirective ∧ (indexRule doc).declare o d = .ok d') ∨
      (o.directive.name = "sql" ∧ (sqlRule config).declare o d = .ok d') ∨
      (o.directive.name ∈ (renameRule sources).directives ∧ (renameRule sources).declare o d = .ok d') ∨
      ((∀ rule ∈ rules doc config sources, o.directive.name ∉ rule.directives) ∧ d' = d) := by
  by_cases hnone : ∀ rule ∈ rules doc config sources, o.directive.name ∉ rule.directives
  · rw [takeStep_of_notMem hnone] at h
    exact .inr (.inr (.inr (.inr (.inr ⟨hnone, (Except.ok.inj h).symm⟩))))
  · push Not at hnone
    obtain ⟨rule, hrule, hmem⟩ := hnone
    rw [takeStep_of_mem rules_apart hrule hmem] at h
    rcases mem_rules hrule with rfl | rfl | rfl | rfl | rfl
    · exact .inl ⟨List.mem_singleton.1 hmem, h⟩
    · exact .inr (.inl ⟨List.mem_singleton.1 hmem, h⟩)
    · exact .inr (.inr (.inl ⟨List.mem_singleton.1 hmem, h⟩))
    · exact .inr (.inr (.inr (.inl ⟨List.mem_singleton.1 hmem, h⟩)))
    · exact .inr (.inr (.inr (.inr (.inl ⟨hmem, h⟩))))

/-! ## the run over a document -/

theorem foldlM_visits (rules : List Rule) (d : Declarations) :
    (visits rules doc).foldlM (fun d s => s.1.accept s.2 d) d =
      doc.occurrences.foldlM (fun d o => takeStep rules o d) d := by
  unfold visits
  induction doc.occurrences generalizing d with
  | nil => rfl
  | cons o rest ih =>
    rw [List.flatMap_cons, List.foldlM_append, List.foldlM_cons, List.foldlM_map]
    exact congrArg _ (funext ih)

/-- When every visit is accepted, no error is reported. -/
theorem foldl_visit_of_ok : ∀ (steps : List (Rule × Occurrence)) (v : Visit) (d : Declarations),
    steps.foldlM (fun d s => s.1.accept s.2 d) v.declared = .ok d →
    steps.foldl (fun v s => s.1.visit s.2 v) v = { v with declared := d }
  | [], v, d, h => by
    cases h
    rfl
  | s :: steps, v, d, h => by
    rw [List.foldlM_cons, bind_eq_ok] at h
    obtain ⟨t, ht, h⟩ := h
    rw [List.foldl_cons, Rule.visit_eq, ht]
    exact foldl_visit_of_ok steps { v with declared := t } d h

/-- What a document declares is what the run over its occurrences ends with. -/
theorem collect_eq_ok_iff :
    collect doc config sources = .ok d ↔
      doc.occurrences.foldlM (fun d o => takeStep (rules doc config sources) o d) {} = .ok d := by
  rw [← foldlM_visits]
  refine ⟨collect_eq_ok, fun h => ?_⟩
  have hrun := foldl_visit_of_ok _ {} d h
  rw [← visitAll_eq] at hrun
  simp [collect, hrun]

/-- Where a step adds one item for each occurrence of a kind and none for others, a document declares the items of its
occurrences of that kind, in their order. -/
theorem collect_items {α : Type} (view : Declarations → List α) {ofKind : Occurrence → Bool}
    {R : Occurrence → α → Prop} (hstart : view {} = [])
    (hstep : ∀ {o d d'}, takeStep (rules doc config sources) o d = .ok d' →
      if ofKind o then ∃ a, R o a ∧ view d' = view d ++ [a] else view d' = view d)
    (h : collect doc config sources = .ok d) : List.Forall₂ R (doc.occurrences.filter ofKind) (view d) := by
  have hrun : ∀ (l : List Occurrence) (s : Declarations),
      l.foldlM (fun d o => takeStep (rules doc config sources) o d) s = .ok d →
      ∃ added, view d = view s ++ added ∧ List.Forall₂ R (l.filter ofKind) added := by
    intro l
    induction l with
    | nil =>
      intro s hs
      cases hs
      exact ⟨[], (List.append_nil _).symm, .nil⟩
    | cons o l ih =>
      intro s hs
      rw [List.foldlM_cons, bind_eq_ok] at hs
      obtain ⟨t, ht, hs⟩ := hs
      obtain ⟨added, hadded, hall⟩ := ih t hs
      have hone := hstep ht
      by_cases hkind : ofKind o = true
      · rw [if_pos hkind] at hone
        obtain ⟨a, ha, hview⟩ := hone
        refine ⟨a :: added, by rw [hadded, hview, List.append_assoc]; rfl, ?_⟩
        rw [List.filter_cons_of_pos hkind]
        exact .cons ha hall
      · rw [if_neg hkind] at hone
        refine ⟨added, by rw [hadded, hone], ?_⟩
        rw [List.filter_cons_of_neg hkind]
        exact hall
  obtain ⟨added, hadded, hall⟩ := hrun doc.occurrences {} (collect_eq_ok_iff.1 h)
  rw [hstart, List.nil_append] at hadded
  rw [hadded]
  exact hall

/-! ## models -/

/-- A step adds the model of an `@model` directive, and no model otherwise. -/
theorem step_models (h : takeStep (rules doc config sources) o d = .ok d') :
    if o.directive.name == Schema.modelDirective then
      ∃ name, name = o.owner.name ∧ d'.models.keys = d.models.keys ++ [name]
    else d'.models.keys = d.models.keys := by
  rcases step_cases h with ⟨hname, h⟩ | ⟨hname, h⟩ | ⟨hname, h⟩ | ⟨hname, h⟩ | ⟨hname, h⟩ | ⟨hnone, rfl⟩
  · obtain ⟨-, hnew, a, -, rfl⟩ := modelRule_eq_ok.1 h
    rw [if_pos (beq_iff_eq.2 hname)]
    exact ⟨_, rfl, OrderedMap.keys_insert_of_notMem _ _ hnew⟩
  · obtain ⟨field, -, -, sort, -, key, -, -, rfl⟩ := primaryKeyRule_eq_ok.1 h
    rw [hname, if_neg (by decide)]
  · obtain ⟨field, -, a, -, -, key, -, rfl⟩ := indexRule_eq_ok.1 h
    rw [hname, if_neg (by decide)]
  · obtain ⟨field, -, -, a, -, statement, -, rfl⟩ := sqlRule_eq_ok.1 h
    rw [hname, if_neg (by decide)]
  · have hother : ¬ (o.directive.name == Schema.modelDirective) = true := by
      intro heq
      rw [beq_iff_eq.1 heq] at hname
      exact absurd hname (by simp [renameRule, Schema.modelDirective, RenameKind.directive])
    rw [if_neg hother]
    obtain ⟨-, name, -, -, ⟨-, rfl⟩ | ⟨field, -, -, rfl⟩⟩ := renameRule_eq_ok.1 h
    · rfl
    · rfl
  · have hother : ¬ (o.directive.name == Schema.modelDirective) = true := by
      intro heq
      exact hnone modelRule (by simp [rules]) (by simp [modelRule, beq_iff_eq.1 heq])
    rw [if_neg hother]

/-- The types that `@model` stands on, in the order of the directives. -/
def Schema.Document.modelOwners (doc : Document) : List String :=
  (doc.occurrences.filter (·.directive.name == Schema.modelDirective)).map (·.owner.name)

/-- The models are those of the `@model` directives, in their order. -/
theorem collect_modelOwners (h : collect doc config sources = .ok d) : d.models.keys = doc.modelOwners := by
  have hall : List.Forall₂ (fun o name => name = o.owner.name)
      (doc.occurrences.filter (·.directive.name == Schema.modelDirective)) d.models.keys :=
    collect_items (·.models.keys) rfl step_models h
  have heq : List.Forall₂ Eq doc.modelOwners d.models.keys :=
    List.forall₂_map_left_iff.2 (hall.imp fun _ _ h => h.symm)
  rw [List.forall₂_eq_eq_eq] at heq
  exact heq.symm

/-! ## indexes -/

/-- The index is the one that the occurrence declares: on the field that it stands on, with the sort fields that it
lists, and under the name that it gives or, if it gives none, a name made from the fields. -/
structure Index.DeclaredBy (o : Occurrence) (i : Index) : Prop where
  model : i.model = o.owner.name
  arguments : ∃ f a, o.field = some f ∧ readArguments Decode.indexArguments o.directive = .ok a ∧
    i.name = a.nameFor f ∧ i.key.names = f.name :: a.sortFields ∧ i.queryField = a.queryField

theorem sortField_name {type name : String} {kind : KeyKind} {f : KeyField}
    (h : sortField doc type kind name = .ok f) : f.name = name := by
  unfold sortField at h
  split at h
  · cases h
    rfl
  · cases h

/-- The sort fields of a key are those that are listed. -/
theorem mapM_sortField_names {type : String} {kind : KeyKind} : ∀ {names : List String} {fields : List KeyField},
    names.mapM (sortField doc type kind) = .ok fields → fields.map (·.name) = names
  | [], fields, h => by
    cases h
    rfl
  | name :: names, fields, h => by
    rw [List.mapM_cons, bind_eq_ok] at h
    obtain ⟨f, hf, h⟩ := h
    obtain ⟨rest, hrest, h⟩ := bind_eq_ok.1 h
    cases h
    rw [List.map_cons, sortField_name hf, mapM_sortField_names hrest]

theorem resolveKey_names {type : String} {partition : FieldDef} {sort : List String} {kind : KeyKind} {key : Key}
    (h : resolveKey doc type partition sort kind = .ok key) : key.names = partition.name :: sort := by
  obtain ⟨fields, hfields, h⟩ := bind_eq_ok.1 h
  split at h
  · cases h
  · cases h
    rw [Key.names, Key.sortNames, mapM_sortField_names hfields]
    rfl

/-- A step adds the index of an `@index` directive, and no index otherwise. -/
theorem step_indexes (h : takeStep (rules doc config sources) o d = .ok d') :
    if o.directive.name == indexDirective then ∃ i, i.DeclaredBy o ∧ d'.indexes = d.indexes ++ [i]
    else d'.indexes = d.indexes := by
  rcases step_cases h with ⟨hname, h⟩ | ⟨hname, h⟩ | ⟨hname, h⟩ | ⟨hname, h⟩ | ⟨hname, h⟩ | ⟨hnone, rfl⟩
  · obtain ⟨-, -, a, -, rfl⟩ := modelRule_eq_ok.1 h
    rw [hname, if_neg (by decide)]
  · obtain ⟨field, -, -, sort, -, key, -, -, rfl⟩ := primaryKeyRule_eq_ok.1 h
    rw [hname, if_neg (by decide)]
  · obtain ⟨field, ⟨hfield, -⟩, a, ha, -, key, hkey, rfl⟩ := indexRule_eq_ok.1 h
    rw [if_pos (beq_iff_eq.2 hname)]
    exact ⟨_, ⟨rfl, field, a, hfield, ha, rfl, resolveKey_names hkey, rfl⟩, rfl⟩
  · obtain ⟨field, -, -, a, -, statement, -, rfl⟩ := sqlRule_eq_ok.1 h
    rw [hname, if_neg (by decide)]
  · have hother : ¬ (o.directive.name == indexDirective) = true := by
      intro heq
      rw [beq_iff_eq.1 heq] at hname
      exact absurd hname (by simp [renameRule, indexDirective, RenameKind.directive])
    rw [if_neg hother]
    obtain ⟨-, name, -, -, ⟨-, rfl⟩ | ⟨field, -, -, rfl⟩⟩ := renameRule_eq_ok.1 h
    · rfl
    · rfl
  · have hother : ¬ (o.directive.name == indexDirective) = true := by
      intro heq
      exact hnone (indexRule doc) (by simp [rules]) (by simp [indexRule, beq_iff_eq.1 heq])
    rw [if_neg hother]

/-- The occurrences of `@index`, in the order of the document. -/
def Schema.Document.indexOccurrences (doc : Document) : List Occurrence :=
  doc.occurrences.filter (·.directive.name == indexDirective)

/-- The indexes are those of the `@index` directives, one for each and in their order. -/
theorem collect_indexes (h : collect doc config sources = .ok d) :
    List.Forall₂ Index.DeclaredBy doc.indexOccurrences d.indexes :=
  collect_items (·.indexes) rfl step_indexes h

end Run

end ModelApi
