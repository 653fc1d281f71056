import ModelApi.Directive.Unsupported
import ModelApi.Proofs.OrderedMap

/-!
# The first directive that is refused

The check walks over all directives of a document and reports one of them. Which one is said here without the walk: by
the types of the document, the directives of a type and of its fields, and the order in which they stand.

* `FirstWith`: the first element of a list with a property, and how it is found in lists that are put together;
* `Schema.TypeDef.FirstRefused`: the first directive of a type that is refused, its own before those of its fields;
* `firstWith_occurrences`: the walk over a document finds the first type that is checked and has such a directive;
* `reported_directive_is_first`: when a directive is reported, and which.
-/

namespace ModelApi

open Schema (Directive Document FieldDef TypeDef)

/-! ## first elements -/

/-- The element has the property, and those before it in the list do not. -/
def FirstWith {α : Type} (P : α → Prop) (l : List α) (a : α) : Prop :=
  P a ∧ ∃ before after, l = before ++ a :: after ∧ ∀ b ∈ before, ¬ P b

section FirstWith

variable {α β : Type} {l m : List α} {a : α}

theorem FirstWith.exists_mem {P : α → Prop} (h : FirstWith P l a) : ∃ b ∈ l, P b := by
  obtain ⟨ha, before, after, rfl, -⟩ := h
  exact ⟨a, List.mem_append_right _ List.mem_cons_self, ha⟩

theorem find?_eq_some_iff_firstWith {p : α → Bool} : l.find? p = some a ↔ FirstWith (p · = true) l a := by
  simp only [List.find?_eq_some_iff_append, FirstWith, Bool.not_eq_true', Bool.not_eq_true]

theorem firstWith_iff_find? {P : α → Prop} [DecidablePred P] :
    FirstWith P l a ↔ l.find? (fun b => decide (P b)) = some a := by
  simp only [find?_eq_some_iff_firstWith, decide_eq_true_eq]

theorem exists_firstWith {P : α → Prop} (ha : a ∈ l) (h : P a) : ∃ b, FirstWith P l b := by
  classical
  have hfound : (l.find? fun b => decide (P b)).isSome = true := List.find?_isSome.2 ⟨a, ha, decide_eq_true h⟩
  obtain ⟨b, hb⟩ := Option.isSome_iff_exists.1 hfound
  exact ⟨b, firstWith_iff_find?.2 hb⟩

theorem firstWith_append {P : α → Prop} :
    FirstWith P (l ++ m) a ↔ FirstWith P l a ∨ (∀ b ∈ l, ¬ P b) ∧ FirstWith P m a := by
  classical
  simp only [firstWith_iff_find?, List.find?_append, Option.or_eq_some_iff, List.find?_eq_none, decide_eq_true_eq]

theorem firstWith_map {P : β → Prop} {f : α → β} {b : β} :
    FirstWith P (l.map f) b ↔ ∃ a, FirstWith (fun a => P (f a)) l a ∧ f a = b := by
  classical
  simp only [firstWith_iff_find?, List.find?_map, Option.map_eq_some_iff, Function.comp_def]

/-- The first element of lists one after the other is that of the first list that has one. -/
theorem firstWith_flatMap {P : β → Prop} {f : α → List β} {b : β} :
    FirstWith P (l.flatMap f) b ↔ ∃ a, FirstWith (fun a => ∃ b ∈ f a, P b) l a ∧ FirstWith P (f a) b := by
  classical
  have hnone : ∀ a, (f a).find? (fun b => decide (P b)) = none ↔ ¬ ∃ b ∈ f a, P b := by
    intro a
    simp only [List.find?_eq_none, decide_eq_true_eq, not_exists, not_and]
  rw [firstWith_iff_find?, List.find?_flatMap, List.findSome?_eq_some_iff]
  constructor
  · rintro ⟨before, a, after, hl, hb, hbefore⟩
    have hfirst : FirstWith P (f a) b := firstWith_iff_find?.2 hb
    exact ⟨a, ⟨hfirst.exists_mem, before, after, hl, fun c hc => (hnone c).1 (hbefore c hc)⟩, hfirst⟩
  · rintro ⟨a, ⟨-, before, after, hl, hbefore⟩, hb⟩
    exact ⟨before, a, after, hl, firstWith_iff_find?.1 hb, fun c hc => (hnone c).2 (hbefore c hc)⟩

end FirstWith

/-! ## what is refused -/

/-- The directive is one that relational models cannot have. -/
def Schema.Directive.Refused (d : Directive) : Prop := d.name ∈ unsupportedDirectives

/-- Some directive on the field is refused. -/
def Schema.FieldDef.HasRefused (f : FieldDef) : Prop := ∃ d ∈ f.directives, d.Refused

/-- Some directive on the type itself or, for an object type, on one of its fields is refused. -/
def Schema.TypeDef.HasRefused (t : TypeDef) : Prop :=
  (∃ d ∈ t.directives, d.Refused) ∨ ∃ f ∈ t.kind.objectFields, f.HasRefused

/-- The first directive of a type that is refused, and the field that it is on: directives of the type come before those
of its fields. -/
def Schema.TypeDef.FirstRefused (t : TypeDef) (d : Directive) (field : Option FieldDef) : Prop :=
  match field with
  | none => FirstWith Directive.Refused t.directives d
  | some f => (∀ e ∈ t.directives, ¬ e.Refused) ∧ FirstWith FieldDef.HasRefused t.kind.objectFields f ∧
    FirstWith Directive.Refused f.directives d

/-- The type is the query root, or has the name of a relational model. -/
def DataSources.Checks (sources : DataSources) (t : TypeDef) : Prop :=
  t.name = Schema.queryType ∨ sources.isSqlModel t.name = true

theorem DataSources.mem_sqlModels {sources : DataSources} {model : String} :
    model ∈ sources.sqlModels ↔ sources.isSqlModel model = true := by
  unfold sqlModels isSqlModel
  rw [List.mem_map, Option.any_eq_true]
  constructor
  · rintro ⟨e, he, rfl⟩
    obtain ⟨hmem, hsql⟩ := List.mem_filter.1 he
    exact ⟨e.2, OrderedMap.get?_of_mem _ hmem, hsql⟩
  · rintro ⟨s, hs, hsql⟩
    exact ⟨(model, s), List.mem_filter.2 ⟨OrderedMap.mem_of_get? _ hs, hsql⟩, rfl⟩

/-- The occurrence is refused where it stands. -/
def Occurrence.Refused (sources : DataSources) (o : Occurrence) : Prop := sources.Checks o.owner ∧ o.directive.Refused

theorem Occurrence.isUnsupported_iff {sources : DataSources} {o : Occurrence} :
    o.isUnsupported sources.sqlModels = true ↔ o.Refused sources := by
  simp only [isUnsupported, Refused, DataSources.Checks, Directive.Refused, Bool.and_eq_true, Bool.or_eq_true,
    beq_iff_eq, List.contains_iff_mem, DataSources.mem_sqlModels]

/-! ## the walk -/

section Walk

variable {sources : DataSources} {doc : Document} {t : TypeDef} {o : Occurrence}

theorem exists_refused_on {directives : List Directive} {field : Option FieldDef} :
    (∃ o ∈ directives.map (⟨·, t, field⟩ : Directive → Occurrence), o.Refused sources) ↔
      sources.Checks t ∧ ∃ d ∈ directives, d.Refused := by
  constructor
  · rintro ⟨o, ho, hchecks, hrefused⟩
    obtain ⟨d, hd, rfl⟩ := List.mem_map.1 ho
    exact ⟨hchecks, d, hd, hrefused⟩
  · rintro ⟨hchecks, d, hd, hrefused⟩
    exact ⟨_, List.mem_map_of_mem hd, hchecks, hrefused⟩

theorem exists_refused_iff : (∃ o ∈ t.occurrences, o.Refused sources) ↔ sources.Checks t ∧ t.HasRefused := by
  constructor
  · rintro ⟨o, ho, hrefused⟩
    rcases List.mem_append.1 ho with ho | ho
    · obtain ⟨hchecks, hown⟩ := exists_refused_on.1 ⟨o, ho, hrefused⟩
      exact ⟨hchecks, .inl hown⟩
    · obtain ⟨f, hf, ho⟩ := List.mem_flatMap.1 ho
      obtain ⟨hchecks, hfield⟩ := exists_refused_on.1 ⟨o, ho, hrefused⟩
      exact ⟨hchecks, .inr ⟨f, hf, hfield⟩⟩
  · rintro ⟨hchecks, hown | ⟨f, hf, hfield⟩⟩
    · obtain ⟨o, ho, hrefused⟩ := exists_refused_on.2 ⟨hchecks, hown⟩
      exact ⟨o, List.mem_append_left _ ho, hrefused⟩
    · obtain ⟨o, ho, hrefused⟩ := exists_refused_on.2 ⟨hchecks, hfield⟩
      exact ⟨o, List.mem_append_right _ (List.mem_flatMap.2 ⟨f, hf, ho⟩), hrefused⟩

/-- The walk over a type that is checked finds the first of its directives that is refused. -/
theorem firstWith_typeOccurrences (ht : sources.Checks t) :
    FirstWith (Occurrence.Refused sources) t.occurrences o ↔ o.owner = t ∧ t.FirstRefused o.directive o.field := by
  have hhere : ∀ d field, Occurrence.Refused sources ⟨d, t, field⟩ ↔ d.Refused := fun d field => and_iff_right ht
  have hfield : ∀ f : FieldDef,
      (∃ o ∈ f.directives.map (⟨·, t, some f⟩ : Directive → Occurrence), o.Refused sources) ↔ f.HasRefused :=
    fun f => exists_refused_on.trans (and_iff_right ht)
  simp only [TypeDef.occurrences, firstWith_append, firstWith_flatMap, hfield, firstWith_map, List.forall_mem_map, hhere]
  constructor
  · rintro (⟨d, hd, rfl⟩ | ⟨hown, f, hf, d, hd, rfl⟩)
    · exact ⟨rfl, hd⟩
    · exact ⟨rfl, hown, hf, hd⟩
  · obtain ⟨d, owner, field⟩ := o
    rintro ⟨rfl, hfirst⟩
    cases field with
    | none => exact .inl ⟨d, hfirst, rfl⟩
    | some f => exact .inr ⟨hfirst.1, f, hfirst.2.1, d, hfirst.2.2, rfl⟩

/-- The walk over a document finds the first type that is checked and has a directive that is refused. -/
theorem firstWith_occurrences :
    FirstWith (Occurrence.Refused sources) doc.occurrences o ↔
      FirstWith (fun t => sources.Checks t ∧ t.HasRefused) doc.types o.owner ∧
        o.owner.FirstRefused o.directive o.field := by
  unfold Document.occurrences
  simp only [firstWith_flatMap, exists_refused_iff]
  constructor
  · rintro ⟨t, ht, ho⟩
    obtain ⟨rfl, hfirst⟩ := (firstWith_typeOccurrences ht.1.1).1 ho
    exact ⟨ht, hfirst⟩
  · rintro ⟨ht, hfirst⟩
    exact ⟨o.owner, ht, (firstWith_typeOccurrences ht.1.1).2 ⟨rfl, hfirst⟩⟩

theorem firstUnsupported?_eq_some_iff {u : UnsupportedDirective} :
    firstUnsupported? doc sources = some u ↔
      (∃ model, sources.isSqlModel model = true) ∧
        ∃ o, FirstWith (Occurrence.Refused sources) doc.occurrences o ∧ o.unsupported = u := by
  have hsome : sources.sqlModels.isEmpty = false ↔ ∃ model, sources.isSqlModel model = true := by
    simp only [List.isEmpty_eq_false_iff_exists_mem, DataSources.mem_sqlModels]
  unfold firstUnsupported?
  rw [← hsome]
  cases sources.sqlModels.isEmpty with
  | true => simp
  | false => simp [Option.map_eq_some_iff, find?_eq_some_iff_firstWith, Occurrence.isUnsupported_iff]

end Walk

/-- A directive is reported exactly when some model is relational and some type that is checked has a directive that is
refused. The report names the first such directive of the first such type, that type, and the field if the directive is
on one. -/
theorem reported_directive_is_first (doc : Document) (sources : DataSources) :
    ((firstUnsupported? doc sources).isSome = true ↔
      (∃ model, sources.isSqlModel model = true) ∧ ∃ t ∈ doc.types, sources.Checks t ∧ t.HasRefused) ∧
    ∀ u, firstUnsupported? doc sources = some u ↔
      (∃ model, sources.isSqlModel model = true) ∧ ∃ t d field,
        FirstWith (fun t => sources.Checks t ∧ t.HasRefused) doc.types t ∧ t.FirstRefused d field ∧
          u = ⟨d.name, t.name, field.map (·.name)⟩ := by
  constructor
  · rw [Option.isSome_iff_exists]
    constructor
    · rintro ⟨u, hu⟩
      obtain ⟨hmodel, o, ho, -⟩ := firstUnsupported?_eq_some_iff.1 hu
      exact ⟨hmodel, (firstWith_occurrences.1 ho).1.exists_mem⟩
    · rintro ⟨hmodel, t, ht, hrefused⟩
      obtain ⟨o, ho, hrefused⟩ := exists_refused_iff.2 hrefused
      obtain ⟨first, hfirst⟩ := exists_firstWith (List.mem_flatMap.2 ⟨t, ht, ho⟩) hrefused
      exact ⟨first.unsupported, firstUnsupported?_eq_some_iff.2 ⟨hmodel, first, hfirst, rfl⟩⟩
  · intro u
    rw [firstUnsupported?_eq_some_iff]
    refine and_congr_right fun _ => ?_
    constructor
    · rintro ⟨o, ho, rfl⟩
      obtain ⟨ht, hfirst⟩ := firstWith_occurrences.1 ho
      exact ⟨o.owner, o.directive, o.field, ht, hfirst, rfl⟩
    · rintro ⟨t, d, field, ht, hfirst, rfl⟩
      exact ⟨⟨d, t, field⟩, firstWith_occurrences.2 ⟨ht, hfirst⟩, rfl⟩

end ModelApi
