import Mathlib.Data.List.Nodup
import ModelApi.Proofs.Directive.Collect

/-!
# Declarations that fit together

Rules see one directive at a time, and each of them checks only a part. An index may even be visited before the primary
key of its model. Once every directive is accepted, all that is declared fits together nevertheless.

* `resolveKey_eq_ok`: the fields of a key are declared on its type, and are scalars or enums;
* `Declarations.KeysSound`, `Declarations.IndexesSound`: what the run keeps about primary keys and about indexes;
* `primaryKey_of_field`: no field with a primary key is passed over;
* `collected_declarations_wellFormed`: all of it together.
-/

namespace ModelApi

open Schema (Document FieldDef TypeRef)

/-- The fields of a key, the partition field first. -/
def Key.fields (k : Key) : List KeyField := k.partition :: k.sort

/-- The type declares the field, in its definition or in an extension, with that type. -/
def Schema.Document.Declares (doc : Document) (type : String) (f : KeyField) : Prop :=
  ∃ g ∈ doc.objectFields type, g.name = f.name ∧ g.type = f.type

/-- A scalar or an enum. Lists, objects and free-form JSON are neither. -/
def Schema.Document.IsLeaf (doc : Document) (type : TypeRef) : Prop :=
  ∃ name nullable, type = .named name nullable ∧ name ≠ "AWSJSON" ∧
    (name ∈ Schema.builtinScalars ∨
      ∃ t, doc.typeNamed? name = some t ∧ (t.kind.isEnum = true ∨ t.kind.isScalar = true))

/-! ## the fields of a key -/

theorem isLeaf_of_not_composite {doc : Document} {type : TypeRef} (h : doc.isComposite type = false) :
    doc.IsLeaf type := by
  cases type with
  | list item nullable => cases h
  | named name nullable =>
    simp only [Document.isComposite, Bool.or_eq_false_iff, beq_eq_false_iff_ne, Bool.not_eq_false',
      Bool.or_eq_true] at h
    obtain ⟨hjson, (hbuiltin | henum) | hscalar⟩ := h
    · exact ⟨name, nullable, rfl, hjson, .inl (List.contains_iff_mem.1 hbuiltin)⟩
    · obtain ⟨t, ht, hkind⟩ := (Option.any_eq_true _ _).1 henum
      exact ⟨name, nullable, rfl, hjson, .inr ⟨t, ht, .inl hkind⟩⟩
    · obtain ⟨t, ht, hkind⟩ := (Option.any_eq_true _ _).1 hscalar
      exact ⟨name, nullable, rfl, hjson, .inr ⟨t, ht, .inr hkind⟩⟩

theorem mem_objectFields {doc : Document} {type : String} {f : FieldDef} :
    f ∈ doc.objectFields type ↔ ∃ t ∈ doc.types, t.name = type ∧ f ∈ t.kind.objectFields := by
  simp only [Document.objectFields, Document.definitionsOf, List.mem_flatMap, List.mem_filter, beq_iff_eq, and_assoc]

/-- A field that a directive stands on is a field of the type that it is visited with. -/
theorem mem_objectFields_of_occurrence {doc : Document} {o : Occurrence} {f : FieldDef} (ho : o ∈ doc.occurrences)
    (hf : o.field = some f) : f ∈ doc.objectFields o.owner.name ∧ o.directive ∈ f.directives := by
  obtain ⟨ht, ⟨hnone, -⟩ | ⟨g, hg, hmem, hdir⟩⟩ := mem_occurrences ho
  · rw [hf] at hnone
    cases hnone
  · obtain rfl : f = g := Option.some.inj (hf.symm.trans hg)
    exact ⟨mem_objectFields.2 ⟨o.owner, ht, rfl, hmem⟩, hdir⟩

/-- Everything in a list that is computed item by item comes from an item. -/
theorem mem_of_mapM_eq_ok {ε α β : Type} {f : α → Except ε β} {b : β} : ∀ {l : List α} {r : List β},
    l.mapM f = .ok r → b ∈ r → ∃ a ∈ l, f a = .ok b
  | [], r, h, hb => by
    cases h
    cases hb
  | a :: l, r, h, hb => by
    rw [List.mapM_cons, bind_eq_ok] at h
    obtain ⟨c, hc, h⟩ := h
    obtain ⟨r', hr', h⟩ := bind_eq_ok.1 h
    cases h
    rcases List.mem_cons.1 hb with rfl | hb
    · exact ⟨a, List.mem_cons_self, hc⟩
    · obtain ⟨a', ha', hb'⟩ := mem_of_mapM_eq_ok hr' hb
      exact ⟨a', List.mem_cons_of_mem _ ha', hb'⟩

theorem declares_of_sortField {doc : Document} {type name : String} {kind : KeyKind} {f : KeyField}
    (h : sortField doc type kind name = .ok f) : doc.Declares type f := by
  unfold sortField at h
  cases hg : doc.field? type name with
  | none =>
    rw [hg] at h
    cases h
  | some g =>
    rw [hg] at h
    cases h
    exact ⟨g, List.mem_of_find?_eq_some hg, by simpa using List.find?_some hg, rfl⟩

/-- The fields of a key are declared on its type, and are scalars or enums. -/
theorem resolveKey_eq_ok {doc : Document} {type : String} {partition : FieldDef} {sort : List String} {kind : KeyKind}
    {key : Key} (h : resolveKey doc type partition sort kind = .ok key) (hp : partition ∈ doc.objectFields type) :
    key.partition = partition.toKeyField ∧ ∀ f ∈ key.fields, doc.Declares type f ∧ doc.IsLeaf f.type := by
  obtain ⟨fields, hfields, h⟩ := bind_eq_ok.1 h
  cases hfind : (partition.toKeyField :: fields).find? fun f => doc.isComposite f.type with
  | some f =>
    rw [hfind] at h
    cases h
  | none =>
    rw [hfind] at h
    cases h
    refine ⟨rfl, fun f hf => ⟨?_, ?_⟩⟩
    · rcases List.mem_cons.1 hf with rfl | hf
      · exact ⟨partition, hp, rfl, rfl⟩
      · obtain ⟨name, -, hname⟩ := mem_of_mapM_eq_ok hfields hf
        exact declares_of_sortField hname
    · have hleaf := List.find?_eq_none.1 hfind f hf
      exact isLeaf_of_not_composite (by simpa using hleaf)

/-! ## keys and indexes of one model -/

/-- The primary key of a model. -/
def Declarations.primaryKey? (d : Declarations) (model : String) : Option PrimaryKey :=
  d.primaryKeys.find? (·.model == model)

/-- The indexes of a model, in the order of the document. -/
def Declarations.indexesOf (d : Declarations) (model : String) : List Index := d.indexes.filter (·.model == model)

theorem filter_eq_find?_toList {α β : Type} [DecidableEq β] {f : α → β} (a : β) : ∀ {l : List α}, (l.map f).Nodup →
    l.filter (f · == a) = (l.find? (f · == a)).toList
  | [], _ => rfl
  | x :: l, h => by
    rw [List.map_cons, List.nodup_cons] at h
    by_cases hx : f x = a
    · have hrest : l.filter (f · == a) = [] := by
        rw [List.filter_eq_nil_iff]
        intro y hy hya
        rw [hx, ← beq_iff_eq.1 hya] at h
        exact h.1 (List.mem_map_of_mem hy)
      simp [hx, hrest]
    · simp [hx, filter_eq_find?_toList a h.2]

/-! ## primary keys along a run -/

section Run

variable {doc : Document} {config : Config} {sources : DataSources} {rule : Rule} {o : Occurrence}
  {d d' : Declarations}

/-- Only the rule of primary keys adds any. -/
theorem primaryKeys_of_accept (hrule : rule ∈ rules doc config sources) (h : rule.accept o d = .ok d') :
    d'.primaryKeys = d.primaryKeys ∨
      o.directive.name = primaryKeyDirective ∧ (primaryKeyRule doc).declare o d = .ok d' := by
  rcases (Rule.accept_eq_ok h).symm with rfl | ⟨hname, h⟩
  · exact .inl rfl
  rcases mem_rules hrule with rfl | rfl | rfl | rfl | rfl
  · obtain ⟨-, -, a, -, rfl⟩ := modelRule_eq_ok.1 h
    exact .inl rfl
  · exact .inr ⟨by simpa [primaryKeyRule] using hname, h⟩
  · obtain ⟨field, -, a, -, -, key, -, rfl⟩ := indexRule_eq_ok.1 h
    exact .inl rfl
  · obtain ⟨field, -, -, a, -, statement, -, rfl⟩ := sqlRule_eq_ok.1 h
    exact .inl rfl
  · obtain ⟨-, name, -, -, ⟨-, rfl⟩ | ⟨field, -, -, rfl⟩⟩ := renameRule_eq_ok.1 h
    all_goals exact .inl rfl

/-- Only the rule of indexes adds any. -/
theorem indexes_of_accept (hrule : rule ∈ rules doc config sources) (h : rule.accept o d = .ok d') :
    d'.indexes = d.indexes ∨ (indexRule doc).declare o d = .ok d' := by
  rcases (Rule.accept_eq_ok h).symm with rfl | ⟨hname, h⟩
  · exact .inl rfl
  rcases mem_rules hrule with rfl | rfl | rfl | rfl | rfl
  · obtain ⟨-, -, a, -, rfl⟩ := modelRule_eq_ok.1 h
    exact .inl rfl
  · obtain ⟨field, -, -, sort, -, key, -, -, rfl⟩ := primaryKeyRule_eq_ok.1 h
    exact .inl rfl
  · exact .inr h
  · obtain ⟨field, -, -, a, -, statement, -, rfl⟩ := sqlRule_eq_ok.1 h
    exact .inl rfl
  · obtain ⟨-, name, -, -, ⟨-, rfl⟩ | ⟨field, -, -, rfl⟩⟩ := renameRule_eq_ok.1 h
    all_goals exact .inl rfl

/-- A primary key that stands on a field of its model: its fields are declared there, are scalars or enums and are
never null. -/
structure PrimaryKey.Sound (doc : Document) (k : PrimaryKey) : Prop where
  stands : ∃ f ∈ doc.objectFields k.model, f.hasDirective primaryKeyDirective = true ∧ k.key.partition = f.toKeyField
  fields : ∀ f ∈ k.key.fields, doc.Declares k.model f ∧ doc.IsLeaf f.type
  required : ∀ f ∈ k.key.fields, f.type.nullable = false

/-- Every model has one primary key at most, and each of them is sound. -/
structure Declarations.KeysSound (doc : Document) (d : Declarations) : Prop where
  distinct : (d.primaryKeys.map (·.model)).Nodup
  sound : ∀ k ∈ d.primaryKeys, k.Sound doc

theorem Declarations.KeysSound.filter_eq (hd : d.KeysSound doc) (model : String) :
    d.primaryKeys.filter (·.model == model) = (d.primaryKey? model).toList := filter_eq_find?_toList model hd.distinct

theorem Declarations.KeysSound.accept (hrule : rule ∈ rules doc config sources) (ho : o ∈ doc.occurrences)
    (hd : d.KeysSound doc) (h : rule.accept o d = .ok d') : d'.KeysSound doc := by
  rcases primaryKeys_of_accept hrule h with hsame | ⟨hname, h⟩
  · exact ⟨hsame ▸ hd.distinct, hsame ▸ hd.sound⟩
  obtain ⟨field, ⟨hfield, -⟩, hfirst, sort, -, key, hkey, hrequired, rfl⟩ := primaryKeyRule_eq_ok.1 h
  obtain ⟨hmem, hdir⟩ := mem_objectFields_of_occurrence ho hfield
  obtain ⟨hpartition, hfields⟩ := resolveKey_eq_ok hkey hmem
  have hdirective : field.hasDirective primaryKeyDirective = true :=
    List.any_eq_true.2 ⟨o.directive, hdir, by simpa using hname⟩
  refine ⟨?_, fun k hk => ?_⟩
  · rw [List.map_append, List.nodup_append]
    refine ⟨hd.distinct, by simp, fun model hmodel other hother => ?_⟩
    obtain ⟨k, hk, rfl⟩ := List.mem_map.1 hmodel
    rw [List.map_singleton, List.mem_singleton] at hother
    rw [hother]
    exact hfirst k hk
  · rcases List.mem_append.1 hk with hk | hk
    · exact hd.sound k hk
    · rw [List.mem_singleton.1 hk]
      exact ⟨⟨field, hmem, hdirective, hpartition⟩, hfields, hrequired⟩

/-! ## indexes along a run -/

/-- An index over declared fields that are scalars or enums, with the primary key that its model shows in the
document. -/
structure Index.Sound (doc : Document) (i : Index) : Prop where
  fields : ∀ f ∈ i.key.fields, doc.Declares i.model f ∧ doc.IsLeaf f.type
  primary : i.primaryPartition = primaryPartition? doc i.model

/-- Indexes of one model do not share a name, unless it is empty, and each of them is sound. -/
structure Declarations.IndexesSound (doc : Document) (d : Declarations) : Prop where
  distinct : d.indexes.Pairwise fun i j => i.model = j.model → i.name ≠ "" → i.name ≠ j.name
  sound : ∀ i ∈ d.indexes, i.Sound doc

theorem Declarations.IndexesSound.accept (hrule : rule ∈ rules doc config sources) (ho : o ∈ doc.occurrences)
    (hd : d.IndexesSound doc) (h : rule.accept o d = .ok d') : d'.IndexesSound doc := by
  rcases indexes_of_accept hrule h with hsame | h
  · exact ⟨hsame ▸ hd.distinct, hsame ▸ hd.sound⟩
  obtain ⟨field, ⟨hfield, -⟩, a, -, hfresh, key, hkey, rfl⟩ := indexRule_eq_ok.1 h
  obtain ⟨hmem, -⟩ := mem_objectFields_of_occurrence ho hfield
  obtain ⟨-, hfields⟩ := resolveKey_eq_ok hkey hmem
  refine ⟨?_, fun i hi => ?_⟩
  · rw [List.pairwise_append]
    refine ⟨hd.distinct, List.pairwise_singleton _ _, fun i hi j hj => ?_⟩
    rw [List.mem_singleton] at hj
    subst hj
    intro hmodel hname heq
    exact hfresh i hi hmodel (fun hempty => hname (heq.trans hempty)) heq
  · rcases List.mem_append.1 hi with hi | hi
    · exact hd.sound i hi
    · rw [List.mem_singleton.1 hi]
      exact ⟨hfields, rfl⟩

end Run

/-! ## what is collected -/

section Collected

variable {doc : Document} {config : Config} {sources : DataSources} {d : Declarations}

theorem collect_keysSound (h : collect doc config sources = .ok d) : d.KeysSound doc := by
  refine foldlM_preserves (fun s hs _ _ hd hacc => ?_) (collect_eq_ok h) ⟨List.nodup_nil, fun _ hk => nomatch hk⟩
  obtain ⟨hrule, ho⟩ := mem_visits.1 hs
  exact hd.accept hrule ho hacc

theorem collect_indexesSound (h : collect doc config sources = .ok d) : d.IndexesSound doc := by
  refine foldlM_preserves (fun s hs _ _ hd hacc => ?_) (collect_eq_ok h) ⟨.nil, fun _ hi => nomatch hi⟩
  obtain ⟨hrule, ho⟩ := mem_visits.1 hs
  exact hd.accept hrule ho hacc

/-- Every model name of the document is declared, and nothing else is. -/
theorem collect_models (h : collect doc config sources = .ok d) (name : String) :
    name ∈ d.models.keys ↔ name ∈ doc.modelNames := by
  constructor
  · intro hname
    obtain ⟨e, he, rfl⟩ := List.mem_map.1 hname
    exact ((collect_grounded h).models e he).2
  · intro hname
    obtain ⟨-, hany⟩ := List.mem_filter.1 hname
    obtain ⟨t, ht, hmodel⟩ := List.any_eq_true.1 hany
    obtain ⟨ht, heq⟩ := List.mem_filter.1 ht
    obtain ⟨hkind, hdir⟩ := Bool.and_eq_true_iff.1 hmodel
    exact modeled_mem_models h ⟨t, ht, hkind, hdir, by simpa using heq⟩

/-- A field with a primary key declares it, wherever in the document it stands. -/
theorem primaryKey_of_field (h : collect doc config sources = .ok d) {type : String} {f : FieldDef}
    (hf : f ∈ doc.objectFields type) (hdir : f.hasDirective primaryKeyDirective = true) :
    ∃ k ∈ d.primaryKeys, k.model = type ∧ k.key.partition = f.toKeyField := by
  obtain ⟨t, ht, rfl, hmem⟩ := mem_objectFields.1 hf
  obtain ⟨dir, hd, hname⟩ := List.any_eq_true.1 hdir
  let o : Occurrence := ⟨dir, t, some f⟩
  have ho : o ∈ doc.occurrences := by
    refine List.mem_flatMap.2 ⟨t, ht, List.mem_append_right _ (List.mem_flatMap.2 ⟨f, hmem, ?_⟩)⟩
    exact List.mem_map.2 ⟨dir, hd, rfl⟩
  have hvisit : (primaryKeyRule doc, o) ∈ visits (rules doc config sources) doc :=
    mem_visits.2 ⟨by simp [rules], ho⟩
  have hgrows : ∀ s ∈ visits (rules doc config sources) doc, ∀ e e', s.1.accept s.2 e = .ok e' →
      e.primaryKeys ⊆ e'.primaryKeys := by
    intro s hs e e' hacc
    rcases primaryKeys_of_accept (mem_visits.1 hs).1 hacc with hsame | ⟨-, hdeclare⟩
    · rw [hsame]
      exact List.Subset.refl _
    · obtain ⟨field, -, -, sort, -, key, -, -, rfl⟩ := primaryKeyRule_eq_ok.1 hdeclare
      exact List.subset_append_left _ _
  -- the directive was accepted at some point, and what is declared stays declared
  obtain ⟨before, after, haccept, hsub⟩ := foldlM_passes (R := fun e e' => e.primaryKeys ⊆ e'.primaryKeys)
    (fun _ => List.Subset.refl _) (fun h₁ h₂ => List.Subset.trans h₁ h₂) hgrows (collect_eq_ok h) hvisit
  have hhandles : (primaryKeyRule doc).directives.contains dir.name = true := by
    rw [beq_iff_eq] at hname
    simp [primaryKeyRule, hname]
  unfold Rule.accept at haccept
  rw [if_pos hhandles] at haccept
  obtain ⟨field, ⟨hfield, -⟩, -, sort, -, key, hkey, -, rfl⟩ := primaryKeyRule_eq_ok.1 haccept
  obtain rfl : f = field := Option.some.inj hfield
  obtain ⟨hpartition, -⟩ := resolveKey_eq_ok hkey hf
  exact ⟨_, hsub (List.mem_append_right _ List.mem_cons_self), rfl, hpartition⟩

/-- The partition field that an index knows of its model is that of the primary key. -/
theorem primaryPartition?_eq_some_iff (h : collect doc config sources = .ok d) (type : String) (f : KeyField) :
    primaryPartition? doc type = some f ↔ ∃ k ∈ d.primaryKeys, k.model = type ∧ k.key.partition = f := by
  have hsound := collect_keysSound h
  constructor
  · intro hfound
    obtain ⟨g, hg, rfl⟩ := Option.map_eq_some_iff.1 hfound
    have hdir : g.hasDirective primaryKeyDirective = true := by simpa using List.find?_some hg
    exact primaryKey_of_field h (List.mem_of_find?_eq_some hg) hdir
  · rintro ⟨k, hk, rfl, rfl⟩
    obtain ⟨g, hg, hdir, -⟩ := (hsound.sound k hk).stands
    -- the first field with the directive declares a primary key too, and there is only one
    have hsome : ((doc.objectFields k.model).find? (·.hasDirective primaryKeyDirective)).isSome :=
      List.find?_isSome.2 ⟨g, hg, hdir⟩
    obtain ⟨first, hfirst⟩ := Option.isSome_iff_exists.1 hsome
    have hshows : first.hasDirective primaryKeyDirective = true := by simpa using List.find?_some hfirst
    obtain ⟨k', hk', hmodel, hpartition⟩ := primaryKey_of_field h (List.mem_of_find?_eq_some hfirst) hshows
    obtain rfl := List.inj_on_of_nodup_map hsound.distinct hk' hk hmodel
    rw [primaryPartition?, hfirst, hpartition]
    rfl

/-- Everything that is declared fits together, and with the document. -/
structure Declarations.WellFormed (doc : Document) (d : Declarations) : Prop where
  /-- The models are those that the document names. -/
  models : ∀ name, name ∈ d.models.keys ↔ name ∈ doc.modelNames
  /-- No model has two primary keys. -/
  oneKey : (d.primaryKeys.map (·.model)).Nodup
  keyModels : ∀ k ∈ d.primaryKeys, k.model ∈ d.models.keys
  indexModels : ∀ i ∈ d.indexes, i.model ∈ d.models.keys
  /-- Two indexes of one model share no name but the empty one. -/
  indexNames : d.indexes.Pairwise fun i j => i.model = j.model → i.name ≠ "" → i.name ≠ j.name
  keyFields : ∀ k ∈ d.primaryKeys, ∀ f ∈ k.key.fields, doc.Declares k.model f ∧ doc.IsLeaf f.type
  indexFields : ∀ i ∈ d.indexes, ∀ f ∈ i.key.fields, doc.Declares i.model f ∧ doc.IsLeaf f.type
  required : ∀ k ∈ d.primaryKeys, ∀ f ∈ k.key.fields, f.type.nullable = false
  /-- An index knows the partition field of its model's primary key exactly when there is one. -/
  partition : ∀ i ∈ d.indexes, ∀ f, i.primaryPartition = some f ↔
    ∃ k ∈ d.primaryKeys, k.model = i.model ∧ k.key.partition = f

/-- **What is collected is well formed**, whatever the document. -/
theorem collected_declarations_wellFormed (h : collect doc config sources = .ok d) : d.WellFormed doc := by
  have hgrounded := collect_grounded h
  have hkeys := collect_keysSound h
  have hindexes := collect_indexesSound h
  refine ⟨collect_models h, hkeys.distinct, hgrounded.primaryKeys, hgrounded.indexes, hindexes.distinct, ?_, ?_, ?_, ?_⟩
  · exact fun k hk => (hkeys.sound k hk).fields
  · exact fun i hi => (hindexes.sound i hi).fields
  · exact fun k hk => (hkeys.sound k hk).required
  · intro i hi f
    rw [(hindexes.sound i hi).primary]
    exact primaryPartition?_eq_some_iff h i.model f

end Collected

/-- Entries that an extension makes a model. The index stands before the primary key, and both sort by fields of the
definition. -/
def ledger : Document := ⟨[
  .type ⟨⟨1, 1⟩, "Entry", false, .object [
    ⟨"account", [], .named "ID" false, []⟩, ⟨"amount", [], .named "Float" true, []⟩], []⟩,
  .type ⟨⟨5, 1⟩, "Entry", true, .object [
    ⟨"day", [], .named "String" true,
      [⟨"index", ⟨6, 15⟩, [("name", .str "byDay"), ("sortKeyFields", .list [.str "amount", .str "account"])]⟩]⟩,
    ⟨"number", [], .named "Int" false, [⟨"primaryKey", ⟨7, 16⟩, [("sortKeyFields", .list [.str "account"])]⟩]⟩],
    [⟨"model", ⟨5, 19⟩, []⟩]⟩]⟩

theorem ledger_wellFormed : ∃ d, collect ledger {} .empty = .ok d ∧
    d.primaryKeys.map (·.key.names) = [["number", "account"]] ∧
    d.indexes.map (fun i => (i.name, i.key.names, i.primaryPartition.map (·.name))) =
      [("byDay", ["day", "amount", "account"], some "number")] ∧ d.WellFormed ledger :=
  ⟨_, rfl, by decide, by decide, collected_declarations_wellFormed rfl⟩

end ModelApi
