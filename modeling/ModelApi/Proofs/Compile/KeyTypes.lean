import ModelApi.Proofs.Compile.Tables
import ModelApi.Proofs.Directive.WellFormed
import ModelApi.Proofs.Key.Composite
import ModelApi.Proofs.Schema.Names

/-!
# The types of key attributes

The type of a key attribute is settled in three places: when its table is created, when the key of the table is
replaced, and for every index. A definition that comes first stays. Fields that take part in a key have one declared
type, and composites are strings, so all places agree, but for one case: a table without a primary key is keyed by a
string `id`, whatever type a field `id` has.

* `Table.Typed recorded declared`: definitions have the recorded types and index keys the declared ones, and a name
  whose two types differ is defined already, so that no index defines it again;
* `attributes_declared`: the definitions that a key asks for have the declared types;
* `compiled_key_types`: definitions, partition keys and index keys of compiled tables.
-/

namespace ModelApi

open Schema (Document FieldDef)

/-! ## definitions with given types -/

/-- Definitions that give names the types of an assignment. -/
def TypedBy (τ : String → AttributeType) (attributes : List AttributeDef) : Prop := ∀ a ∈ attributes, a.type = τ a.name

namespace TypedBy

variable {τ : String → AttributeType} {attributes : List AttributeDef}

theorem mem (h : TypedBy τ attributes) {name : String} (hname : name ∈ attributes.map (·.name)) :
    ⟨name, τ name⟩ ∈ attributes := by
  obtain ⟨a, ha, rfl⟩ := List.mem_map.1 hname
  rw [← h a ha]
  exact ha

theorem typeIn_eq (h : TypedBy τ attributes) {name : String} (hname : name ∈ attributes.map (·.name)) :
    Table.typeIn attributes name = τ name := by
  unfold Table.typeIn
  cases hfind : attributes.find? (·.name == name) with
  | some a =>
    have hsame : a.name = name := by simpa using List.find?_some hfind
    rw [← hsame]
    exact h a (List.mem_of_find?_eq_some hfind)
  | none =>
    obtain ⟨a, ha, rfl⟩ := List.mem_map.1 hname
    exact absurd (List.find?_eq_none.1 hfind a ha) (by simp)

/-- A new definition has the right type, or its name is defined already. -/
theorem registerAll {added : List AttributeDef} (h : TypedBy τ attributes)
    (hadded : ∀ a ∈ added, a.name ∈ attributes.map (·.name) ∨ a.type = τ a.name) :
    TypedBy τ (registerAll attributes added) := by
  induction added generalizing attributes with
  | nil => exact h
  | cons b added ih =>
    have hb := hadded b List.mem_cons_self
    have hfirst : TypedBy τ (register attributes b) := by
      rw [register_eq]
      split
      · exact h
      next hnew =>
        intro a ha
        rcases List.mem_append.1 ha with ha | ha
        · exact h a ha
        · rw [List.mem_singleton.1 ha]
          exact hb.resolve_left hnew
    refine ih hfirst fun a ha => ?_
    rcases hadded a (List.mem_cons_of_mem _ ha) with hdefined | htype
    · exact .inl ((name_mem_register attributes b a.name).2 (.inl hdefined))
    · exact .inr htype

end TypedBy

/-! ## tables -/

/-- The keys that an index brings. -/
def TableChange.keys : TableChange → List TableKey
  | .replaceKey _ _ => []
  | .addGlobal index => index.partition :: index.sort.toList
  | .addLocal index => index.sort.toList

namespace Table

/-- The keys of all indexes. -/
def indexKeys (t : Table) : List TableKey :=
  (t.globalIndexes.flatMap fun i => i.partition :: i.sort.toList) ++ t.localIndexes.flatMap fun i => i.sort.toList

theorem indexAttributes_eq (t : Table) : t.indexAttributes = t.indexKeys.map (·.name) := by
  simp [indexAttributes, indexKeys, List.map_flatMap]

theorem attributes_apply (t : Table) {c : TableChange} (hc : c.addsIndex = true) :
    (t.apply c).attributes = registerAll t.attributes (c.keys.map TableKey.definition) := by
  cases c with
  | replaceKey keySchema attributes => cases hc
  | addGlobal index => rfl
  | addLocal index => rfl

theorem mem_indexKeys_apply (t : Table) {c : TableChange} (hc : c.addsIndex = true) (k : TableKey) :
    k ∈ (t.apply c).indexKeys ↔ k ∈ t.indexKeys ∨ k ∈ c.keys := by
  cases c with
  | replaceKey keySchema attributes => cases hc
  | addGlobal index =>
    have hglobal : (t.apply (.addGlobal index)).globalIndexes = t.globalIndexes ++ [index] := rfl
    have hlocal : (t.apply (.addGlobal index)).localIndexes = t.localIndexes := rfl
    simp only [indexKeys, hglobal, hlocal, List.flatMap_append, List.mem_append, List.flatMap_cons, List.flatMap_nil,
      List.append_nil, TableChange.keys]
    exact or_right_comm
  | addLocal index =>
    have hglobal : (t.apply (.addLocal index)).globalIndexes = t.globalIndexes := rfl
    have hlocal : (t.apply (.addLocal index)).localIndexes = t.localIndexes ++ [index] := rfl
    simp only [indexKeys, hglobal, hlocal, List.flatMap_append, List.mem_append, List.flatMap_cons, List.flatMap_nil,
      List.append_nil, TableChange.keys]
    exact or_assoc.symm

/-- The types of a table whose indexes are still to come, or are there. -/
structure Typed (recorded declared : String → AttributeType) (t : Table) : Prop where
  attributes : TypedBy recorded t.attributes
  indexes : ∀ k ∈ t.indexKeys, k.type = declared k.name
  settled : ∀ name, recorded name ≠ declared name → name ∈ t.attributes.map (·.name)

theorem Typed.apply {recorded declared : String → AttributeType} {t : Table} (h : t.Typed recorded declared)
    {c : TableChange} (hc : c.addsIndex = true) (hkeys : ∀ k ∈ c.keys, k.type = declared k.name) :
    (t.apply c).Typed recorded declared := by
  refine ⟨?_, fun k hk => ?_, fun name hname => ?_⟩
  · rw [attributes_apply t hc]
    refine h.attributes.registerAll fun a ha => ?_
    obtain ⟨k, hk, rfl⟩ := List.mem_map.1 ha
    -- a key with another type than the recorded one has a name that is defined already
    by_cases heq : recorded k.name = declared k.name
    · exact .inr ((hkeys k hk).trans heq.symm)
    · exact .inl (h.settled k.name heq)
  · rcases (mem_indexKeys_apply t hc k).1 hk with hold | hnew
    · exact h.indexes k hold
    · exact hkeys k hnew
  · rw [attributes_apply t hc]
    exact (name_mem_registerAll _ _ name).2 (.inl (h.settled name hname))

/-- A new table has an `id`, which is a string; all other types are still open. -/
theorem typed_new (model name : String) (provisioning : Provisioning) {recorded declared : String → AttributeType}
    (hid : recorded "id" = .s) (hother : ∀ n, n ≠ "id" → recorded n = declared n) :
    (Table.new model name provisioning).Typed recorded declared := by
  refine ⟨fun a ha => ?_, nofun, fun n hn => ?_⟩
  · rw [List.mem_singleton.1 ha, hid]
  · by_cases h : n = "id"
    · simp [Table.new, h]
    · exact absurd (hother n h) hn

/-- After the first key of a table, types are those that the key asks for. -/
theorem typed_keyed (model name : String) (provisioning : Provisioning) {declared : String → AttributeType}
    {elements : List KeyElement} {attributes : List AttributeDef} (h : TypedBy declared attributes) :
    ((Table.new model name provisioning).apply (.replaceKey elements attributes)).Typed declared declared := by
  have hattributes : ((Table.new model name provisioning).apply (.replaceKey elements attributes)).attributes =
      ModelApi.registerAll [] attributes := rfl
  refine ⟨?_, nofun, fun n hn => absurd rfl hn⟩
  rw [hattributes]
  exact TypedBy.registerAll nofun fun a ha => .inr (h a ha)

end Table

/-! ## declared types -/

/-- The type of a key attribute by the field that it is named after; composites are named after none. -/
def Schema.Document.declaredType (doc : Document) (model name : String) : AttributeType :=
  match doc.field? model name with
  | some f => attributeType doc f.type
  | none => .s

section Declared

variable {doc : Document} {model : String} (hn : ((doc.objectFields model).map (·.name)).Nodup)

include hn in
theorem declaredType_of_field {f : FieldDef} (hf : f ∈ doc.objectFields model) :
    doc.declaredType model f.name = attributeType doc f.type := by
  have hfind : doc.field? model f.name = some f := by
    cases hg : doc.field? model f.name with
    | none => exact absurd (List.find?_eq_none.1 hg f hf) (by simp)
    | some g =>
      have hname : g.name = f.name := by simpa using List.find?_some hg
      rw [List.inj_on_of_nodup_map hn (List.mem_of_find?_eq_some hg) hf hname]
  rw [Document.declaredType, hfind]

theorem declaredType_composite (hnames : ∀ f ∈ doc.objectFields model, '#' ∉ f.name.toList) {fields : List String}
    (hlength : 2 ≤ fields.length) : doc.declaredType model (compositeName fields) = .s := by
  have hnone : doc.field? model (compositeName fields) = none := by
    refine List.find?_eq_none.2 fun f hf hname => hnames f hf ?_
    rw [beq_iff_eq.1 hname]
    exact hash_mem_compositeName hlength
  rw [Document.declaredType, hnone]

include hn in
/-- The definitions that a key asks for have the declared types. -/
theorem attributes_declared (hnames : ∀ f ∈ doc.objectFields model, '#' ∉ f.name.toList) {k : Key}
    (hk : ∀ f ∈ k.fields, doc.Declares model f) : TypedBy (doc.declaredType model) (k.attributes doc) := by
  have hfield : ∀ f ∈ k.fields, attributeType doc f.type = doc.declaredType model f.name := by
    intro f hf
    obtain ⟨g, hg, hname, htype⟩ := hk f hf
    rw [← hname, ← htype, declaredType_of_field hn hg]
  intro a ha
  rcases List.mem_cons.1 ha with rfl | ha
  · exact hfield k.partition List.mem_cons_self
  · cases hsort : k.sort with
    | nil => simp [hsort] at ha
    | cons first rest =>
      cases rest with
      | nil =>
        have hmem : first ∈ k.fields := List.mem_cons_of_mem _ (by rw [hsort]; exact List.mem_cons_self)
        rw [hsort] at ha
        rw [List.mem_singleton.1 ha]
        exact hfield first hmem
      | cons second rest =>
        have hlength : 2 ≤ k.sortNames.length := by simp [Key.sortNames, hsort]
        rw [hsort] at ha
        rw [List.mem_singleton.1 ha]
        exact (declaredType_composite hnames hlength).symm

end Declared

theorem keys_indexChange (p : Project) (i : Index) :
    (p.indexChange i).keys =
      ((if p.isLocal i then [] else [i.key.partition.name]) ++ i.key.sortAttribute?.toList).map fun name =>
        ⟨name, Table.typeIn (i.key.attributes p.doc) name⟩ := by
  unfold Project.indexChange
  cases p.isLocal i with
  | true => cases i.key.sortAttribute? <;> rfl
  | false => cases i.key.sortAttribute? <;> rfl

/-- The keys of an index have the declared types. -/
theorem type_of_mem_indexChange {p : Project} {i : Index} {declared : String → AttributeType}
    (h : TypedBy declared (i.key.attributes p.doc)) {k : TableKey} (hk : k ∈ (p.indexChange i).keys) :
    k.type = declared k.name := by
  rw [keys_indexChange] at hk
  obtain ⟨name, hname, rfl⟩ := List.mem_map.1 hk
  refine h.typeIn_eq ?_
  rw [Key.names_attributes]
  rcases List.mem_append.1 hname with hname | hname
  · split at hname
    · cases hname
    · rw [List.mem_singleton.1 hname]
      exact List.mem_cons_self
  · exact List.mem_cons_of_mem _ hname

/-! ## compiled tables -/

/-- Some field `id` of the model is a number. -/
def Schema.Document.NumericId (doc : Document) (model : String) : Prop :=
  ∃ f ∈ doc.objectFields model, f.name = "id" ∧ attributeType doc f.type = .n

/-- The attribute is the `id` that a table starts out with, and the field of that name is a number. -/
def Schema.Document.StartsOtherwise (doc : Document) (model : String) (keyed : Prop) (name : String) : Prop :=
  ¬ keyed ∧ name = "id" ∧ doc.NumericId model

/-- The key attributes of the table of a model, by whether the model has a primary key: each is defined once, with the
type of the field or, for composites, as a string; partition key and index keys have the types of the definitions. A
table without a primary key is keyed by a string. -/
structure Table.KeyTypes (doc : Document) (model : String) (keyed : Prop) (t : Table) : Prop where
  distinct : (t.attributes.map (·.name)).Nodup
  defined : ∀ name, name ∈ t.keySchema.map (·.name) ∨ name ∈ t.indexKeys.map (·.name) → name ∈ t.attributes.map (·.name)
  single : ∀ a ∈ t.attributes, ∀ f ∈ doc.objectFields model, f.name = a.name →
    ¬ doc.StartsOtherwise model keyed a.name → a.type = attributeType doc f.type
  composite : ∀ a ∈ t.attributes, ∀ fields, 2 ≤ fields.length → a.name = compositeName fields → a.type = .s
  partition : t.partitionKey.definition ∈ t.attributes
  indexes : ∀ k ∈ t.indexKeys, ¬ doc.StartsOtherwise model keyed k.name → k.definition ∈ t.attributes
  standard : ¬ keyed → t.partitionKey = ⟨"id", .s⟩

/-- The type that a table records for an attribute. -/
def recordedType (doc : Document) (model : String) (keyed : Prop) [Decidable keyed] (name : String) : AttributeType :=
  if ¬ keyed ∧ name = "id" then .s else doc.declaredType model name

theorem declaredType_id {doc : Document} {model : String} (h : ¬ doc.NumericId model) :
    doc.declaredType model "id" = .s := by
  unfold Document.declaredType
  cases hfind : doc.field? model "id" with
  | none => rfl
  | some f =>
    cases htype : attributeType doc f.type with
    | s => exact htype
    | n => exact absurd ⟨f, List.mem_of_find?_eq_some hfind, by simpa using List.find?_some hfind, htype⟩ h

theorem recordedType_eq {doc : Document} {model : String} {keyed : Prop} [Decidable keyed] {name : String}
    (h : ¬ doc.StartsOtherwise model keyed name) : recordedType doc model keyed name = doc.declaredType model name := by
  unfold recordedType
  split
  next hid =>
    have hnumeric : ¬ doc.NumericId model := fun hnumeric => h ⟨hid.1, hid.2, hnumeric⟩
    rw [hid.2, declaredType_id hnumeric]
  next => rfl

theorem keyTypes_of_typed {doc : Document} {model : String} {keyed : Prop} [Decidable keyed] {t : Table}
    (hn : ((doc.objectFields model).map (·.name)).Nodup)
    (hnames : ∀ f ∈ doc.objectFields model, '#' ∉ f.name.toList) (hconsistent : t.Consistent)
    (htyped : t.Typed (recordedType doc model keyed) (doc.declaredType model))
    (hstandard : ¬ keyed → t.partitionKey.name = "id") : t.KeyTypes doc model keyed := by
  have hdefined : ∀ name, name ∈ t.keySchema.map (·.name) ∨ name ∈ t.indexKeys.map (·.name) →
      name ∈ t.attributes.map (·.name) := by
    intro name hname
    rw [hconsistent.used, Table.indexAttributes_eq]
    exact hname
  refine ⟨hconsistent.distinct, hdefined, ?_, ?_, hconsistent.typed, ?_, ?_⟩
  · intro a ha f hf hname hother
    rw [htyped.attributes a ha, recordedType_eq hother, ← hname, declaredType_of_field hn hf]
  · intro a ha fields hlength hname
    rw [htyped.attributes a ha, recordedType, hname, declaredType_composite hnames hlength, ite_self]
  · intro k hk hother
    have hdef : k.definition = ⟨k.name, recordedType doc model keyed k.name⟩ := by
      rw [recordedType_eq hother, ← htyped.indexes k hk]
      rfl
    rw [hdef]
    exact htyped.attributes.mem (hdefined k.name (.inr (List.mem_map_of_mem hk)))
  · intro hkeyless
    have htype : t.partitionKey.type = .s := by
      have hrecorded := htyped.attributes _ hconsistent.typed
      rwa [TableKey.definition, recordedType, if_pos ⟨hkeyless, hstandard hkeyless⟩] at hrecorded
    rw [← hstandard hkeyless, ← htype]

section Document

variable {doc : Document} {config : Config} {d : Declarations} {api : Api} {model : String}

/-- The table of a model starts out new, gets its key replaced if there is a primary key, and then its indexes. -/
theorem table_of_model (h : compileDocument doc config = .ok api)
    (hd : collect doc config (config.sourcesOf doc) = .ok d) (hmodel : model ∈ doc.modelNames)
    {provisioning : Provisioning} (hprov : (config.strategyOf model).provisioning? = some provisioning) :
    api.stack.tables.get? (tableId model) = some
      ((Table.keyChanges doc ((d.primaryKey? model).toList.map (·.key)) ++
        (d.indexesOf model).map (projectOf config doc d).indexChange).foldl Table.apply
          (Table.new model (d.renames.storedModel model) provisioning)) := by
  obtain ⟨hu, -⟩ := collect_of_compileDocument h
  obtain ⟨-, rfl⟩ := (compileDocument_eq_ok hu hd).1 h
  have hp := projectOf_grounded hd
  have htables : (d.start.after ((projectOf config doc d).plan d.renames.storedModel d)).stack.tables =
      (projectOf config doc d).tables d.renames.storedModel d := Project.tables_after_plan _ d rfl
  have hlisted : (model, provisioning) ∈ (projectOf config doc d).tableModels := by
    obtain ⟨e, he, hkey⟩ := List.mem_map.1 ((collect_models hd model).2 hmodel)
    have hname : e.2.name = model := (hp.named e he).trans hkey
    refine List.mem_filterMap.2 ⟨e.2, List.mem_map_of_mem he, ?_⟩
    have hsource : (projectOf config doc d).dataSources.get? model = some (config.strategyOf model) :=
      sourcesOf_get? hmodel
    rw [hname, hsource, Option.bind_some, hprov]
    rfl
  rw [Output.finish, htables, Project.tables_get? hp _ d hlisted, (collect_keysSound hd).filter_eq]
  rfl

theorem index_keys_declared (hd : collect doc config (config.sourcesOf doc) = .ok d)
    (hn : ((doc.objectFields model).map (·.name)).Nodup) (hnames : ∀ f ∈ doc.objectFields model, '#' ∉ f.name.toList)
    {c : TableChange} (hc : c ∈ (d.indexesOf model).map (projectOf config doc d).indexChange) :
    c.addsIndex = true ∧ ∀ k ∈ c.keys, k.type = doc.declaredType model k.name := by
  obtain ⟨i, hi, rfl⟩ := List.mem_map.1 hc
  obtain ⟨hmem, hof⟩ := List.mem_filter.1 hi
  obtain rfl : i.model = model := by simpa using hof
  have hfields : ∀ f ∈ i.key.fields, doc.Declares i.model f :=
    fun f hf => (((collect_indexesSound hd).sound i hmem).fields f hf).1
  have htyped := attributes_declared hn hnames hfields
  exact ⟨Project.addsIndex_indexChange i, fun k hk => type_of_mem_indexChange htyped hk⟩

/-- The types of the table of a model, after its key and all of its indexes. -/
theorem typed_of_model (hd : collect doc config (config.sourcesOf doc) = .ok d)
    (hn : ((doc.objectFields model).map (·.name)).Nodup) (hnames : ∀ f ∈ doc.objectFields model, '#' ∉ f.name.toList)
    (name : String) (provisioning : Provisioning) :
    ((Table.keyChanges doc ((d.primaryKey? model).toList.map (·.key)) ++
      (d.indexesOf model).map (projectOf config doc d).indexChange).foldl Table.apply
        (Table.new model name provisioning)).Typed
      (recordedType doc model ((d.primaryKey? model).isSome = true)) (doc.declaredType model) := by
  rw [List.foldl_append]
  refine Table.foldl_apply_preserves (fun c hc t ht => ?_) ?_
  · obtain ⟨hadds, hkeys⟩ := index_keys_declared hd hn hnames hc
    exact ht.apply hadds hkeys
  cases hk : d.primaryKey? model with
  | none =>
    refine Table.typed_new model name provisioning rfl fun n hne => ?_
    rw [recordedType, if_neg fun hid => hne hid.2]
  | some k =>
    have hsame : recordedType doc model ((some k).isSome = true) = doc.declaredType model := by
      funext n
      rw [recordedType, if_neg fun hid => hid.1 rfl]
    rw [hsame]
    obtain rfl : k.model = model := by simpa using List.find?_some hk
    have hsound := (collect_keysSound hd).sound k (List.mem_of_find?_eq_some hk)
    have hfields : ∀ f ∈ k.key.fields, doc.Declares k.model f := fun f hf => (hsound.fields f hf).1
    exact Table.typed_keyed k.model name provisioning (attributes_declared hn hnames hfields)

/-- **The types of key attributes agree.** Take a document that was read from a text, in which no object type declares a
field name twice, and a model of it that is kept in a table. The table defines every attribute of its key and of its
indexes once: a field with the type of its declaration, a composite as a string. The partition key and the keys of
indexes have the types of the definitions. A model without a primary key is keyed by a string `id`, also where its field
`id` is a number; the keys of indexes on such a field are left open. -/
theorem compiled_key_types {text : String} (hread : Document.read text = .ok doc)
    (hdistinct : ∀ type, ((doc.objectFields type).map (·.name)).Nodup) (h : compile text config = .ok api)
    (hd : collect doc config (config.sourcesOf doc) = .ok d) (hmodel : model ∈ doc.modelNames)
    (htable : (config.strategyOf model).isSql = false) :
    ∃ t, api.stack.tables.get? (tableId model) = some t ∧
      t.KeyTypes doc model ((d.primaryKey? model).isSome = true) := by
  have hcompiled : compileDocument doc config = .ok api := by
    rw [compile, hread] at h
    exact h
  obtain ⟨provisioning, hprov⟩ : ∃ provisioning, (config.strategyOf model).provisioning? = some provisioning := by
    cases hs : config.strategyOf model with
    | dynamodb provisioning => exact ⟨provisioning, rfl⟩
    | mysql source =>
      rw [hs] at htable
      cases htable
    | postgres source =>
      rw [hs] at htable
      cases htable
  have hnames : ∀ f ∈ doc.objectFields model, '#' ∉ f.name.toList :=
    fun f hf => (Schema.fieldNames_of_read hread hf).hash_notMem
  refine ⟨_, table_of_model hcompiled hd hmodel hprov, ?_⟩
  have htyped := typed_of_model hd (hdistinct model) hnames (d.renames.storedModel model) provisioning
  refine keyTypes_of_typed (hdistinct model) hnames ?_ htyped fun hkeyless => ?_
  · refine (Table.keyed_then_indexed model _ provisioning doc _ _ fun c hc => ?_).1
    exact (index_keys_declared hd (hdistinct model) hnames hc).1
  · have hnone : d.primaryKey? model = none := by simpa using hkeyless
    rw [hnone]
    refine Table.foldl_apply_preserves (P := fun t => t.partitionKey.name = "id") (fun c hc t ht => ?_) rfl
    have hadds := (index_keys_declared hd (hdistinct model) hnames hc).1
    cases c with
    | replaceKey keySchema attributes => cases hadds
    | addGlobal index => exact ht
    | addLocal index => exact ht

end Document

/-- Types that are not named have no fields. -/
theorem objectFields_nodup {doc : Document}
    (h : ∀ type ∈ doc.typeNames, ((doc.objectFields type).map (·.name)).Nodup) (type : String) :
    ((doc.objectFields type).map (·.name)).Nodup := by
  by_cases htype : type ∈ doc.typeNames
  · exact h type htype
  · have hnone : doc.objectFields type = [] := by
      rw [List.eq_nil_iff_forall_not_mem]
      intro f hf
      obtain ⟨t, ht, rfl, -⟩ := mem_objectFields.1 hf
      exact htype (mem_distinct.2 (List.mem_map_of_mem ht))
    rw [hnone]
    exact List.nodup_nil

/-- A model without a primary key, with a number as its `id` and an index over three other fields. -/
def logText : String :=
  "type Log @model \x7b id: Int! day: Int! @index(name: \"byDay\", sortKeyFields: [\"place\", \"hour\"]) " ++
    "place: ID hour: Int \x7d"

theorem log_key_types : ∃ doc d api t, Document.read logText = .ok doc ∧
    (∀ type, ((doc.objectFields type).map (·.name)).Nodup) ∧ compile logText {} = .ok api ∧
    collect doc {} (Config.sourcesOf {} doc) = .ok d ∧ "Log" ∈ doc.modelNames ∧
    (Config.strategyOf {} "Log").isSql = false ∧ api.stack.tables.get? (tableId "Log") = some t ∧
    t.attributes = [⟨"id", .s⟩, ⟨"day", .n⟩, ⟨"place#hour", .s⟩] ∧
    t.KeyTypes doc "Log" ((d.primaryKey? "Log").isSome = true) := by
  have hdocument : ((Document.read logText).toOption.map fun doc => (doc.modelNames,
      decide (∀ type ∈ doc.typeNames, ((doc.objectFields type).map (·.name)).Nodup))) = some (["Log"], true) := by
    decide +kernel
  have hattributes : ((compile logText {}).toOption.bind fun api => (api.stack.tables.get? (tableId "Log")).map
      (·.attributes)) = some [⟨"id", .s⟩, ⟨"day", .n⟩, ⟨"place#hour", .s⟩] := by decide +kernel
  obtain ⟨doc, hdoc, hchecked⟩ := Option.map_eq_some_iff.1 hdocument
  obtain ⟨hmodels, hnodup⟩ := Prod.mk.inj hchecked
  obtain ⟨api, hapi, hlisted⟩ := Option.bind_eq_some_iff.1 hattributes
  obtain ⟨t, ht, hlist⟩ := Option.map_eq_some_iff.1 hlisted
  have hread : Document.read logText = .ok doc := ok_of_toOption hdoc
  have h : compile logText {} = .ok api := ok_of_toOption hapi
  have hdistinct := objectFields_nodup (of_decide_eq_true hnodup)
  have hmodel : "Log" ∈ doc.modelNames := by simp [hmodels]
  obtain ⟨-, d, hd⟩ : _ ∧ ∃ d, collect doc {} (Config.sourcesOf {} doc) = .ok d := by
    rw [compile, hread] at h
    exact collect_of_compileDocument h
  obtain ⟨t', ht', htypes⟩ := compiled_key_types hread hdistinct h hd hmodel rfl
  cases ht.symm.trans ht'
  exact ⟨doc, d, api, t, hread, hdistinct, h, hd, hmodel, rfl, ht, hlist, htypes⟩

/-- A post with a number for its `id`. -/
def postText : String := "type Post @model \x7b id: Int! title: String \x7d"

/-- The table of posts is keyed by a string, where the field is declared as a number. -/
theorem post_id_types : ((compile postText {}).toOption.bind fun api => (api.stack.tables.get? (tableId "Post")).map
      fun t => (t.attributes, t.partitionKey)) = some ([⟨"id", .s⟩], ⟨"id", .s⟩) ∧
    ((Document.read postText).toOption.map fun doc =>
      (doc.objectFields "Post").map fun f => (f.name, attributeType doc f.type)) =
        some [("id", .n), ("title", .s)] := by
  decide +kernel

end ModelApi
