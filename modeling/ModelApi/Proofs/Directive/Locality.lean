import ModelApi.Proofs.Directive.Run
import ModelApi.Proofs.Schema.Rearranged

/-!
# What is declared for one type

A directive adds to what is declared for the type that it stands on. Whether it is accepted depends on that, on its
place and its arguments, and on look-ups in the document, but not on what is declared for other types. So a run over a
document falls apart into one run for each type.

* `Declarations.part`: what is declared for one type;
* `step_leaves`, `step_transfer`: what a step leaves alone, and what it depends on;
* `takeAll_part`, `takeAll_of_parts`: the run for one type within that over all, and back;
* `collect_rearranged`: a document that is rearranged declares the same for every type.
-/

namespace ModelApi

open Schema (Document FieldDef)

/-- What is declared for one type. -/
structure Part where
  model : Option Model
  primaryKeys : List PrimaryKey
  indexes : List Index
  sqlFields : List SqlField
  stored : Option String
  fieldMap : Option FieldMap

/-- What is declared for a type. -/
def Declarations.part (d : Declarations) (type : String) : Part where
  model := d.models.get? type
  primaryKeys := d.primaryKeys.filter (·.model == type)
  indexes := d.indexes.filter (·.model == type)
  sqlFields := d.sqlFields.filter (·.typeName == type)
  stored := d.renames.modelNames.get? type
  fieldMap := d.renames.fieldMaps.get? type

/-! ## occurrences without positions -/

theorem toKeyField_congr {f f' : FieldDef} (h : f.unplaced = f'.unplaced) : f.toKeyField = f'.toKeyField := by
  have hsame := congrArg (fun g : FieldDef => g.toKeyField) h
  exact hsame

namespace Occurrence

/-- The occurrence without positions. -/
def unplaced (o : Occurrence) : Occurrence := ⟨o.directive.unplaced, o.owner.unplaced, o.field.map (·.unplaced)⟩

variable {o o' : Occurrence} (h : o.unplaced = o'.unplaced)
include h

theorem name_congr : o.directive.name = o'.directive.name := congrArg (·.directive.name) h

theorem owner_congr : o.owner.name = o'.owner.name := congrArg (·.owner.name) h

theorem readArguments_congr {σ α : Type} (shape : Decode.Shape σ α) :
    readArguments shape o.directive = readArguments shape o'.directive := by
  have hsame := congrArg (fun o : Occurrence => readArguments shape o.directive) h
  exact hsame

theorem isModelDef_congr : isModelDef o.owner = isModelDef o'.owner := by
  have hsame := congrArg (fun o : Occurrence => isModelDef o.owner) h
  simpa [isModelDef, unplaced] using hsame

theorem isObject_congr : o.owner.kind.isObject = o'.owner.kind.isObject := by
  have hsame := congrArg (fun o : Occurrence => o.owner.kind.isObject) h
  simpa [unplaced, Schema.TypeDef.unplaced] using hsame

theorem field_eq_none (hfield : o.field = none) : o'.field = none := by
  have hsame : o.field.map (·.unplaced) = o'.field.map (·.unplaced) := congrArg Occurrence.field h
  rw [hfield] at hsame
  simpa using hsame.symm

theorem field_eq_some {f : FieldDef} (hfield : o.field = some f) :
    ∃ f', o'.field = some f' ∧ f'.toKeyField = f.toKeyField := by
  have hsame : o.field.map (·.unplaced) = o'.field.map (·.unplaced) := congrArg Occurrence.field h
  rw [hfield, Option.map_some] at hsame
  obtain ⟨f', hfield', heq⟩ := Option.map_eq_some_iff.1 hsame.symm
  exact ⟨f', hfield', toKeyField_congr heq⟩

end Occurrence

/-! ## look-ups of the rules -/

section Rearranged

variable {doc doc' : Document} (h : doc.Rearranged doc')
include h

theorem sortField_rearranged (type : String) (kind : KeyKind) (name : String) :
    sortField doc type kind name = sortField doc' type kind name := by
  have hfield := h.field? type name
  unfold sortField
  cases hd : doc.field? type name with
  | none =>
    rw [hd, Option.map_none] at hfield
    rw [Option.map_eq_none_iff.1 hfield.symm]
  | some f =>
    rw [hd, Option.map_some] at hfield
    obtain ⟨f', hd', heq⟩ := Option.map_eq_some_iff.1 hfield.symm
    have htype : f'.type = f.type := congrArg KeyField.type (toKeyField_congr heq)
    simp only [hd', htype]

theorem resolveKey_rearranged (type : String) {f f' : FieldDef} (hf : f'.toKeyField = f.toKeyField)
    (sort : List String) (kind : KeyKind) : resolveKey doc type f sort kind = resolveKey doc' type f' sort kind := by
  have hcomposite : (fun g : KeyField => doc.isComposite g.type) = fun g => doc'.isComposite g.type :=
    funext fun g => h.isComposite g.type
  unfold resolveKey
  rw [funext (sortField_rearranged h type kind), hf, hcomposite]

theorem primaryPartition?_rearranged (type : String) : primaryPartition? doc type = primaryPartition? doc' type := by
  have hfind : ∀ d : Document, primaryPartition? d type =
      (((d.objectFields type).map (·.unplaced)).find? (·.hasDirective primaryKeyDirective)).map (·.toKeyField) := by
    intro d
    have htest : (fun f : FieldDef => f.hasDirective primaryKeyDirective) ∘ FieldDef.unplaced =
        fun f : FieldDef => f.hasDirective primaryKeyDirective := funext fun f => f.hasDirective_unplaced _
    rw [List.find?_map, htest, Option.map_map]
    rfl
  rw [hfind, hfind, h.objectFields]

end Rearranged

/-! ## one step -/

section Step

variable {doc doc' : Document} {config : Config} {sources sources' : DataSources} {o o' : Occurrence}
  {d d' e : Declarations}

/-- A step leaves all types alone but the one that its directive stands on. -/
theorem step_leaves (h : takeStep (rules doc config sources) o d = .ok d') {type : String} (hne : o.owner.name ≠ type) :
    d'.part type = d.part type := by
  have hne' : type ≠ o.owner.name := hne.symm
  rcases step_cases h with ⟨-, h⟩ | ⟨-, h⟩ | ⟨-, h⟩ | ⟨-, h⟩ | ⟨-, h⟩ | ⟨-, rfl⟩
  · obtain ⟨-, -, a, -, rfl⟩ := modelRule_eq_ok.1 h
    simp [Declarations.part, hne']
  · obtain ⟨field, -, -, sort, -, key, -, -, rfl⟩ := primaryKeyRule_eq_ok.1 h
    simp [Declarations.part, hne]
  · obtain ⟨field, -, a, -, -, key, -, rfl⟩ := indexRule_eq_ok.1 h
    simp [Declarations.part, hne]
  · obtain ⟨field, -, -, a, -, statement, -, rfl⟩ := sqlRule_eq_ok.1 h
    simp [Declarations.part, hne]
  · obtain ⟨-, name, -, -, ⟨-, rfl⟩ | ⟨field, -, -, rfl⟩⟩ := renameRule_eq_ok.1 h
    · simp [Declarations.part, Renames.renameModel, hne']
    · simp [Declarations.part, Renames.renameField, Renames.updateFieldMap, hne']
  · rfl

end Step

/-! ## what the rules depend on -/

/-- One rule makes of an occurrence what the other makes of another one, as far as the type of the occurrence goes; what
is declared for other types does not matter. -/
def Rule.Matches (rule rule' : Rule) (o o' : Occurrence) : Prop :=
  ∀ d e d', d.part o.owner.name = e.part o.owner.name → rule.declare o d = .ok d' →
    ∃ e', rule'.declare o' e = .ok e' ∧ d'.part o.owner.name = e'.part o.owner.name

section Rules

variable {doc doc' : Document} {config : Config} {sources sources' : DataSources} {o o' : Occurrence}
  (ho : o.unplaced = o'.unplaced)
include ho

theorem modelRule_matches : Rule.Matches modelRule modelRule o o' := by
  intro d e d' hpart h
  have howner := Occurrence.owner_congr ho
  simp only [Declarations.part, Part.mk.injEq] at hpart
  obtain ⟨hmodel, hkeys, hindexes, hfields, hstored, hmap⟩ := hpart
  obtain ⟨⟨hfield, hobject⟩, hnew, a, hargs, rfl⟩ := modelRule_eq_ok.1 h
  refine ⟨_, modelRule_eq_ok.2 ⟨⟨Occurrence.field_eq_none ho hfield, ?_⟩, ?_, a, ?_, rfl⟩, ?_⟩
  · rw [← Occurrence.isObject_congr ho, hobject]
  · rw [← howner, ← OrderedMap.get?_eq_none_iff, ← hmodel, OrderedMap.get?_eq_none_iff]
    exact hnew
  · rw [← Occurrence.readArguments_congr ho, hargs]
  · simp [Declarations.part, ← howner, hkeys, hindexes, hfields, hstored, hmap]

theorem primaryKeyRule_matches (hdoc : doc.Rearranged doc') :
    Rule.Matches (primaryKeyRule doc) (primaryKeyRule doc') o o' := by
  intro d e d' hpart h
  have howner := Occurrence.owner_congr ho
  simp only [Declarations.part, Part.mk.injEq] at hpart
  obtain ⟨hmodel, hkeys, hindexes, hfields, hstored, hmap⟩ := hpart
  obtain ⟨field, ⟨hfield, hdef⟩, hfirst, sort, hargs, key, hkey, hrequired, rfl⟩ := primaryKeyRule_eq_ok.1 h
  obtain ⟨field', hfield', hf⟩ := Occurrence.field_eq_some ho hfield
  rw [Occurrence.isModelDef_congr ho] at hdef
  refine ⟨_, primaryKeyRule_eq_ok.2 ⟨field', ⟨hfield', hdef⟩, ?_, sort, ?_, key, ?_, hrequired, rfl⟩, ?_⟩
  · have hnone : d.primaryKeys.filter (·.model == o.owner.name) = [] :=
      List.filter_eq_nil_iff.2 fun k hk => by simpa using hfirst k hk
    rw [hkeys, List.filter_eq_nil_iff] at hnone
    intro k hk
    simpa [howner] using hnone k hk
  · rw [← Occurrence.readArguments_congr ho, hargs]
  · rw [← howner, ← resolveKey_rearranged hdoc _ hf, hkey]
  · simp [Declarations.part, ← howner, hmodel, hkeys, hindexes, hfields, hstored, hmap]

theorem indexRule_matches (hdoc : doc.Rearranged doc') : Rule.Matches (indexRule doc) (indexRule doc') o o' := by
  intro d e d' hpart h
  have howner := Occurrence.owner_congr ho
  simp only [Declarations.part, Part.mk.injEq] at hpart
  obtain ⟨hmodel, hkeys, hindexes, hfields, hstored, hmap⟩ := hpart
  obtain ⟨field, ⟨hfield, hdef⟩, a, hargs, hfresh, key, hkey, rfl⟩ := indexRule_eq_ok.1 h
  obtain ⟨field', hfield', hf⟩ := Occurrence.field_eq_some ho hfield
  have hfieldName : field'.name = field.name := congrArg KeyField.name hf
  have hname : a.nameFor field' = a.nameFor field := by
    rw [IndexArguments.nameFor, IndexArguments.nameFor, hfieldName]
  rw [Occurrence.isModelDef_congr ho] at hdef
  refine ⟨_, indexRule_eq_ok.2 ⟨field', ⟨hfield', hdef⟩, a, ?_, ?_, key, ?_, rfl⟩, ?_⟩
  · rw [← Occurrence.readArguments_congr ho, hargs]
  · intro i hi hof
    rw [← howner] at hof
    have hmem : i ∈ e.indexes.filter (·.model == o.owner.name) := List.mem_filter.2 ⟨hi, by simpa using hof⟩
    rw [← hindexes] at hmem
    rw [hname]
    exact hfresh i (List.mem_filter.1 hmem).1 hof
  · rw [hname, ← howner, ← resolveKey_rearranged hdoc _ hf, hkey]
  · simp [Declarations.part, ← howner, hmodel, hkeys, hindexes, hfields, hstored, hmap, hname,
      primaryPartition?_rearranged hdoc]

theorem sqlRule_matches : Rule.Matches (sqlRule config) (sqlRule config) o o' := by
  intro d e d' hpart h
  have howner := Occurrence.owner_congr ho
  simp only [Declarations.part, Part.mk.injEq] at hpart
  obtain ⟨hmodel, hkeys, hindexes, hfields, hstored, hmap⟩ := hpart
  obtain ⟨field, hfield, hroot, a, hargs, statement, hstatement, rfl⟩ := sqlRule_eq_ok.1 h
  obtain ⟨field', hfield', hf⟩ := Occurrence.field_eq_some ho hfield
  have hfieldName : field'.name = field.name := congrArg KeyField.name hf
  rw [howner] at hroot
  refine ⟨_, sqlRule_eq_ok.2 ⟨field', hfield', hroot, a, ?_, statement, ?_, rfl⟩, ?_⟩
  · rw [← Occurrence.readArguments_congr ho, hargs]
  · rw [← howner, hfieldName, hstatement]
  · simp [Declarations.part, ← howner, hmodel, hkeys, hindexes, hfields, hstored, hmap, hfieldName]

theorem renameRule_matches (hsources : sources.isSqlModel = sources'.isSqlModel) :
    Rule.Matches (renameRule sources) (renameRule sources') o o' := by
  intro d e d' hpart h
  have howner := Occurrence.owner_congr ho
  simp only [Declarations.part, Part.mk.injEq] at hpart
  obtain ⟨hmodel, hkeys, hindexes, hfields, hstored, hmap⟩ := hpart
  obtain ⟨hdef, name, hargs, hrelational, hcases⟩ := renameRule_eq_ok.1 h
  rw [Occurrence.isModelDef_congr ho] at hdef
  rw [Occurrence.readArguments_congr ho] at hargs
  rw [Occurrence.name_congr ho, howner, hsources] at hrelational
  rcases hcases with ⟨hfield, rfl⟩ | ⟨field, hfield, hkind, rfl⟩
  · have hfield' := Occurrence.field_eq_none ho hfield
    refine ⟨_, renameRule_eq_ok.2 ⟨hdef, name, hargs, hrelational, .inl ⟨hfield', rfl⟩⟩, ?_⟩
    simp [Declarations.part, ← howner, hmodel, hkeys, hindexes, hfields, hmap, Renames.renameModel]
  · obtain ⟨field', hfield', hf⟩ := Occurrence.field_eq_some ho hfield
    have hfieldName : field'.name = field.name := congrArg KeyField.name hf
    rw [Occurrence.name_congr ho] at hkind
    refine ⟨_, renameRule_eq_ok.2 ⟨hdef, name, hargs, hrelational, .inr ⟨field', hfield', hkind, rfl⟩⟩, ?_⟩
    simp [Declarations.part, ← howner, hmodel, hkeys, hindexes, hfields, hstored, hmap, hfieldName,
      Renames.renameField, Renames.updateFieldMap]

/-- A step depends only on what is declared for its type, and makes the same of it in a rearranged document. -/
theorem step_transfer (hdoc : doc.Rearranged doc') (hsources : sources.isSqlModel = sources'.isSqlModel)
    {d e d' : Declarations} (hpart : d.part o.owner.name = e.part o.owner.name)
    (h : takeStep (rules doc config sources) o d = .ok d') :
    ∃ e', takeStep (rules doc' config sources') o' e = .ok e' ∧ d'.part o.owner.name = e'.part o.owner.name := by
  have hname := Occurrence.name_congr ho
  have htake : ∀ {rule rule' : Rule}, rule' ∈ rules doc' config sources' → o'.directive.name ∈ rule'.directives →
      rule.Matches rule' o o' → rule.declare o d = .ok d' →
      ∃ e', takeStep (rules doc' config sources') o' e = .ok e' ∧ d'.part o.owner.name = e'.part o.owner.name := by
    intro rule rule' hrule hmem hmatches hdeclare
    rw [takeStep_of_mem rules_apart hrule hmem]
    exact hmatches d e d' hpart hdeclare
  rcases step_cases h with ⟨hdir, h⟩ | ⟨hdir, h⟩ | ⟨hdir, h⟩ | ⟨hdir, h⟩ | ⟨hdir, h⟩ | ⟨hnone, rfl⟩
  · exact htake (by simp [rules]) (by simp [modelRule, ← hname, hdir]) (modelRule_matches ho) h
  · exact htake (by simp [rules]) (by simp [primaryKeyRule, ← hname, hdir]) (primaryKeyRule_matches ho hdoc) h
  · exact htake (by simp [rules]) (by simp [indexRule, ← hname, hdir]) (indexRule_matches ho hdoc) h
  · exact htake (by simp [rules]) (by simp [sqlRule, ← hname, hdir]) (sqlRule_matches ho) h
  · exact htake (by simp [rules]) (hname ▸ hdir) (renameRule_matches ho hsources) h
  · have hpassed : ∀ rule ∈ rules doc' config sources', o'.directive.name ∉ rule.directives := by
      simpa [rules, modelRule, primaryKeyRule, indexRule, sqlRule, renameRule, hname] using hnone
    exact ⟨e, takeStep_of_notMem hpassed e, hpart⟩

end Rules

/-! ## the run for one type -/

/-- What rules make of several occurrences, one after the other. -/
def takeAll (rules : List Rule) (occurrences : List Occurrence) (d : Declarations) : Except Misuse Declarations :=
  occurrences.foldlM (fun d o => takeStep rules o d) d

theorem takeAll_cons {rules : List Rule} {o : Occurrence} {l : List Occurrence} {d d' : Declarations} :
    takeAll rules (o :: l) d = .ok d' ↔ ∃ t, takeStep rules o d = .ok t ∧ takeAll rules l t = .ok d' := by
  rw [takeAll, List.foldlM_cons, bind_eq_ok]
  rfl

section Run

variable {doc doc' : Document} {config : Config} {sources sources' : DataSources} {type : String}

/-- What a run declares for a type, the occurrences on that type declare alone, also in a rearranged document. -/
theorem takeAll_part (hdoc : doc.Rearranged doc') (hsources : sources.isSqlModel = sources'.isSqlModel) :
    ∀ {l l' : List Occurrence} {d e d' : Declarations},
      (l.filter (·.owner.name == type)).map (·.unplaced) = l'.map (·.unplaced) → d.part type = e.part type →
      takeAll (rules doc config sources) l d = .ok d' →
      ∃ e', takeAll (rules doc' config sources') l' e = .ok e' ∧ d'.part type = e'.part type := by
  intro l
  induction l with
  | nil =>
    intro l' d e d' hl hpart h
    obtain rfl : l' = [] := by simpa using hl.symm
    cases h
    exact ⟨e, rfl, hpart⟩
  | cons o l ih =>
    intro l' d e d' hl hpart h
    obtain ⟨t, hstep, hrest⟩ := takeAll_cons.1 h
    by_cases htype : o.owner.name = type
    · subst htype
      rw [List.filter_cons_of_pos (by simp), List.map_cons] at hl
      obtain ⟨o', l'', rfl, ho, hl'⟩ := List.map_eq_cons_iff.1 hl.symm
      obtain ⟨u, hstep', hpart'⟩ := step_transfer ho.symm hdoc hsources hpart hstep
      obtain ⟨e', hrest', hend⟩ := ih hl'.symm hpart' hrest
      exact ⟨e', takeAll_cons.2 ⟨u, hstep', hrest'⟩, hend⟩
    · rw [List.filter_cons_of_neg (by simpa using htype)] at hl
      exact ih hl ((step_leaves hstep htype).trans hpart) hrest

/-- When the occurrences on each type are accepted alone, they are accepted together. -/
theorem takeAll_of_parts : ∀ {l : List Occurrence} {d : Declarations},
    (∀ type, ∃ e, takeAll (rules doc config sources) (l.filter (·.owner.name == type)) d = .ok e) →
    ∃ d', takeAll (rules doc config sources) l d = .ok d' := by
  intro l
  induction l with
  | nil => exact fun {d} _ => ⟨d, rfl⟩
  | cons o l ih =>
    intro d h
    obtain ⟨e, he⟩ := h o.owner.name
    rw [List.filter_cons_of_pos (by simp)] at he
    obtain ⟨t, hstep, hrest⟩ := takeAll_cons.1 he
    have hparts : ∀ type, ∃ e, takeAll (rules doc config sources) (l.filter (·.owner.name == type)) t = .ok e := by
      intro type
      by_cases htype : o.owner.name = type
      · subst htype
        exact ⟨e, hrest⟩
      · -- the step has left this type alone, so its own run does not notice it
        obtain ⟨u, hu⟩ := h type
        rw [List.filter_cons_of_neg (by simpa using htype)] at hu
        have hself : ((l.filter (·.owner.name == type)).filter (·.owner.name == type)).map (·.unplaced) =
            (l.filter (·.owner.name == type)).map (·.unplaced) := by simp [List.filter_filter]
        obtain ⟨u', hu', -⟩ := takeAll_part (.refl doc) rfl hself (step_leaves hstep htype).symm hu
        exact ⟨u', hu'⟩
    obtain ⟨d', hd'⟩ := ih hparts
    exact ⟨d', takeAll_cons.2 ⟨t, hstep, hd'⟩⟩

/-! ## documents -/

theorem occurrences_filter (doc : Document) (type : String) :
    doc.occurrences.filter (·.owner.name == type) = (doc.definitionsOf type).flatMap (·.occurrences) := by
  have howner : ∀ t : Schema.TypeDef, ∀ o ∈ t.occurrences, o.owner = t := by
    intro t o ho
    rcases List.mem_append.1 ho with ho | ho
    · obtain ⟨dir, -, rfl⟩ := List.mem_map.1 ho
      rfl
    · obtain ⟨f, -, ho⟩ := List.mem_flatMap.1 ho
      obtain ⟨dir, -, rfl⟩ := List.mem_map.1 ho
      rfl
  unfold Document.occurrences Document.definitionsOf
  induction doc.types with
  | nil => rfl
  | cons t types ih =>
    rw [List.flatMap_cons, List.filter_append, ih]
    by_cases htype : t.name = type
    · rw [List.filter_cons_of_pos (by simpa using htype), List.flatMap_cons,
        List.filter_eq_self.2 fun o ho => by simpa [howner t o ho] using htype]
    · rw [List.filter_cons_of_neg (by simpa using htype),
        List.filter_eq_nil_iff.2 fun o ho => by simpa [howner t o ho] using htype, List.nil_append]

theorem occurrences_unplaced (t : Schema.TypeDef) : t.occurrences.map (·.unplaced) = t.unplaced.occurrences := by
  simp [Schema.TypeDef.occurrences, Occurrence.unplaced, Schema.TypeDef.unplaced, FieldDef.unplaced, List.map_flatMap,
    List.flatMap_map, Function.comp_def]

theorem occurrences_rearranged (hdoc : doc.Rearranged doc') (type : String) :
    (doc.occurrences.filter (·.owner.name == type)).map (·.unplaced) =
      (doc'.occurrences.filter (·.owner.name == type)).map (·.unplaced) := by
  have hmap : ∀ d : Document, (d.occurrences.filter (·.owner.name == type)).map (·.unplaced) =
      ((d.definitionsOf type).map (·.unplaced)).flatMap (·.occurrences) := by
    intro d
    rw [occurrences_filter, List.map_flatMap, List.flatMap_map]
    exact congrArg (List.flatMap · _) (funext occurrences_unplaced)
  rw [hmap, hmap, hdoc.order]

/-- A document that is rearranged declares the same for every type. -/
theorem collect_rearranged (hdoc : doc.Rearranged doc') (hsources : sources.isSqlModel = sources'.isSqlModel)
    {d : Declarations} (h : collect doc config sources = .ok d) :
    ∃ d', collect doc' config sources' = .ok d' ∧ ∀ type, d.part type = d'.part type := by
  have hrun : takeAll (rules doc config sources) doc.occurrences {} = .ok d := collect_eq_ok_iff.1 h
  have hparts : ∀ type, ∃ e, takeAll (rules doc' config sources') (doc'.occurrences.filter (·.owner.name == type)) {} =
      .ok e ∧ d.part type = e.part type :=
    fun type => takeAll_part hdoc hsources (occurrences_rearranged hdoc type) rfl hrun
  obtain ⟨d', hrun'⟩ := takeAll_of_parts fun type => (hparts type).imp fun _ he => he.1
  refine ⟨d', collect_eq_ok_iff.2 hrun', fun type => ?_⟩
  obtain ⟨e, he, hpart⟩ := hparts type
  obtain ⟨e', he', hpart'⟩ := takeAll_part (.refl doc') rfl rfl rfl hrun'
  rw [he] at he'
  cases he'
  exact hpart.trans hpart'.symm

end Run

end ModelApi
