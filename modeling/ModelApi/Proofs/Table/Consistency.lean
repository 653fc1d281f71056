import ModelApi.Proofs.Key.Composite
import ModelApi.Proofs.Table.Provisioning

/-!
# Consistent tables

* `Consistent t`: the attribute definitions of a table are exactly the attributes that its keys and indexes use, each
  once, and the partition key is the one that the key schema and the definitions name;
* `Mirrors t`: the effective properties of its resource state the managed view and nothing else;
* `StatesInPlace partition t`: the same for a table that is changed in place, with local indexes on a partition key that
  may be an earlier one.

A new table is consistent and mirrored, and adding an index keeps both. Replacing the key drops the definitions of the
old key even where an index uses them, and local indexes go on stating the old partition key, so the key has to be
replaced before there are indexes: this is what `keyed_then_indexed` asks of the order of changes.
-/

namespace ModelApi

/-- Whether a change adds an index. -/
def TableChange.addsIndex : TableChange → Bool
  | .replaceKey _ _ => false
  | .addGlobal _ | .addLocal _ => true

/-- The local index that a change adds. -/
def TableChange.local? : TableChange → Option LocalIndex
  | .addLocal index => some index
  | _ => none

/-- The global index that a change adds. -/
def TableChange.global? : TableChange → Option GlobalIndex
  | .addGlobal index => some index
  | _ => none

/-! ## registering definitions -/

theorem register_eq (attributes : List AttributeDef) (a : AttributeDef) :
    register attributes a = if a.name ∈ attributes.map (·.name) then attributes else attributes ++ [a] := by
  have hiff : attributes.any (·.name == a.name) = true ↔ a.name ∈ attributes.map (·.name) := by simp
  unfold register
  by_cases h : a.name ∈ attributes.map (·.name)
  · rw [if_pos h, if_pos (hiff.2 h)]
  · rw [if_neg h, if_neg fun e => h (hiff.1 e)]

theorem mem_register {attributes : List AttributeDef} {a : AttributeDef} (b : AttributeDef) (h : a ∈ attributes) :
    a ∈ register attributes b := by
  rw [register_eq]
  split
  · exact h
  · exact List.mem_append_left _ h

theorem name_mem_register (attributes : List AttributeDef) (a : AttributeDef) (name : String) :
    name ∈ (register attributes a).map (·.name) ↔ name ∈ attributes.map (·.name) ∨ name = a.name := by
  rw [register_eq]
  split
  · rename_i h
    exact ⟨.inl, fun e => e.elim id fun e => e ▸ h⟩
  · simp

theorem nodup_register {attributes : List AttributeDef} (a : AttributeDef) (h : (attributes.map (·.name)).Nodup) :
    ((register attributes a).map (·.name)).Nodup := by
  rw [register_eq]
  split
  · exact h
  · rename_i ha
    rw [List.map_append, List.nodup_append]
    refine ⟨h, by simp, fun x hx y hy => ?_⟩
    rw [List.map_singleton, List.mem_singleton] at hy
    rintro rfl
    exact ha (hy ▸ hx)

theorem mem_registerAll {a : AttributeDef} (added : List AttributeDef) {attributes : List AttributeDef}
    (h : a ∈ attributes) : a ∈ registerAll attributes added := by
  induction added generalizing attributes with
  | nil => exact h
  | cons b added ih => exact ih (mem_register b h)

theorem name_mem_registerAll (added attributes : List AttributeDef) (name : String) :
    name ∈ (registerAll attributes added).map (·.name) ↔
      name ∈ attributes.map (·.name) ∨ name ∈ added.map (·.name) := by
  induction added generalizing attributes with
  | nil => simp [registerAll]
  | cons b added ih =>
    have h := ih (register attributes b)
    rw [name_mem_register, or_assoc] at h
    rw [List.map_cons, List.mem_cons]
    exact h

theorem nodup_registerAll (added : List AttributeDef) {attributes : List AttributeDef}
    (h : (attributes.map (·.name)).Nodup) : ((registerAll attributes added).map (·.name)).Nodup := by
  induction added generalizing attributes with
  | nil => exact h
  | cons b added ih => exact ih (nodup_register b h)

namespace Table

/-! ## consistency -/

/-- The attributes that the partition and sort keys of an index use. -/
def indexAttributes (t : Table) : List String :=
  (t.globalIndexes.flatMap fun i => i.partition.name :: i.sort.toList.map (·.name)) ++
    t.localIndexes.flatMap fun i => i.sort.toList.map (·.name)

/-- The definitions are the attributes in use, each once, and give the partition key its type. -/
structure Consistent (t : Table) : Prop where
  distinct : (t.attributes.map (·.name)).Nodup
  used : ∀ name, name ∈ t.attributes.map (·.name) ↔ name ∈ t.keySchema.map (·.name) ∨ name ∈ t.indexAttributes
  hash : t.keySchema.filter (·.role == .hash) = [⟨t.partitionKey.name, .hash⟩]
  typed : t.partitionKey.definition ∈ t.attributes

theorem consistent_new (model name : String) (provisioning : Provisioning) :
    (Table.new model name provisioning).Consistent where
  distinct := by simp [new]
  used := by simp [new, indexAttributes]
  hash := rfl
  typed := by simp [new, TableKey.definition]

/-- As long as there are no indexes, the key of a table can be replaced. -/
theorem Consistent.replaceKey {t : Table} (h : t.Consistent) (hg : t.globalIndexes = []) (hl : t.localIndexes = [])
    (doc : Schema.Document) (k : Key) : (t.replaceKey k.elements (k.attributes doc)).Consistent := by
  -- every definition belongs to the old key, so none is kept
  have hkept : (t.attributes.filter fun a => !t.keySchema.any (·.name == a.name)) = [] := by
    rw [List.filter_eq_nil_iff]
    intro a ha
    have hname : a.name ∈ t.keySchema.map (·.name) := by
      have hu := (h.used a.name).1 (List.mem_map_of_mem ha)
      simpa [indexAttributes, hg, hl] using hu
    simpa using hname
  have hattributes : (t.replaceKey k.elements (k.attributes doc)).attributes = registerAll [] (k.attributes doc) := by
    show registerAll (t.attributes.filter _) _ = _
    rw [hkept]
  have hnames : (k.attributes doc).map (·.name) = k.elements.map (·.name) := by
    rw [Key.names_attributes, Key.names_elements]
  have hpartition : partitionOf k.elements = k.partition.name := by
    simp [partitionOf, Key.elements]
  have htype : typeIn (k.attributes doc) k.partition.name = attributeType doc k.partition.type := by
    simp [typeIn, Key.attributes]
  have hkey : (t.replaceKey k.elements (k.attributes doc)).partitionKey =
      ⟨k.partition.name, attributeType doc k.partition.type⟩ := by
    show TableKey.mk (partitionOf k.elements) (typeIn (k.attributes doc) (partitionOf k.elements)) = _
    rw [hpartition, htype]
  refine ⟨?_, ?_, ?_, ?_⟩
  · rw [hattributes]
    exact nodup_registerAll _ (by simp)
  · intro name
    have hindexes : (t.replaceKey k.elements (k.attributes doc)).indexAttributes = [] := by
      show t.indexAttributes = []
      simp [indexAttributes, hg, hl]
    rw [hattributes, name_mem_registerAll, hnames, hindexes]
    show _ ↔ name ∈ k.elements.map (·.name) ∨ _
    simp
  · rw [hkey]
    show k.elements.filter _ = _
    cases h : k.sortAttribute? <;> simp [Key.elements, h]
  · rw [hkey, hattributes]
    have hfirst : (⟨k.partition.name, attributeType doc k.partition.type⟩ : AttributeDef) ∈
        register [] ⟨k.partition.name, attributeType doc k.partition.type⟩ := by simp [register]
    exact mem_registerAll (k.attributes doc).tail hfirst

/-- New definitions join the old ones where an index uses them. -/
theorem Consistent.extend {t u : Table} (h : t.Consistent) (added : List AttributeDef)
    (hattributes : u.attributes = registerAll t.attributes added) (hkey : u.keySchema = t.keySchema)
    (hpartition : u.partitionKey = t.partitionKey)
    (hindexes : ∀ name, name ∈ u.indexAttributes ↔ name ∈ t.indexAttributes ∨ name ∈ added.map (·.name)) :
    u.Consistent := by
  refine ⟨?_, ?_, ?_, ?_⟩
  · rw [hattributes]
    exact nodup_registerAll added h.distinct
  · intro name
    rw [hattributes, name_mem_registerAll, h.used, hkey, hindexes, or_assoc]
  · rw [hkey, hpartition]
    exact h.hash
  · rw [hpartition, hattributes]
    exact mem_registerAll added h.typed

theorem Consistent.addGlobalIndex {t : Table} (h : t.Consistent) (index : GlobalIndex) :
    (t.addGlobalIndex index).Consistent := by
  refine h.extend (index.partition.definition :: index.sort.toList.map TableKey.definition) rfl rfl rfl fun name => ?_
  have hindexes : (t.addGlobalIndex index).globalIndexes = t.globalIndexes ++ [index] := rfl
  have hlocal : (t.addGlobalIndex index).localIndexes = t.localIndexes := rfl
  simp only [indexAttributes, hindexes, hlocal, List.flatMap_append, List.mem_append, List.map_cons, List.map_map]
  have hdef : ((fun a : AttributeDef => a.name) ∘ TableKey.definition) = TableKey.name := rfl
  rw [hdef, show index.partition.definition.name = index.partition.name from rfl]
  simp only [List.flatMap_cons, List.flatMap_nil, List.append_nil]
  exact or_right_comm

theorem Consistent.addLocalIndex {t : Table} (h : t.Consistent) (index : LocalIndex) :
    (t.addLocalIndex index).Consistent := by
  refine h.extend (index.sort.toList.map TableKey.definition) rfl rfl rfl fun name => ?_
  have hglobal : (t.addLocalIndex index).globalIndexes = t.globalIndexes := rfl
  have hindexes : (t.addLocalIndex index).localIndexes = t.localIndexes ++ [index] := rfl
  simp only [indexAttributes, hglobal, hindexes, List.flatMap_append, List.mem_append, List.map_map]
  have hdef : ((fun a : AttributeDef => a.name) ∘ TableKey.definition) = TableKey.name := rfl
  rw [hdef]
  simp only [List.flatMap_cons, List.flatMap_nil, List.append_nil]
  exact or_assoc.symm

/-! ## what the resource states -/

/-- An attribute of the key of a table: HASH for the partition key, RANGE for the sort key. -/
def statedElement (e : KeyElement) : Json :=
  .obj [("attributeName", .str e.name), ("keyType", .str (if e.role = .hash then "HASH" else "RANGE"))]

/-- An attribute definition: S for strings, N for numbers. -/
def statedAttribute (a : AttributeDef) : Json :=
  .obj [("attributeName", .str a.name), ("attributeType", .str (if a.type = .s then "S" else "N"))]

/-- The key of an index: a HASH attribute, and a RANGE attribute when there is a sort key. -/
def statedKey (partition : String) (sort : Option TableKey) : Json :=
  .arr (.obj [("attributeName", .str partition), ("keyType", .str "HASH")] ::
    sort.toList.map fun k => .obj [("attributeName", .str k.name), ("keyType", .str "RANGE")])

/-- All attributes are projected. -/
def statedProjection : Json := .obj [("projectionType", .str "ALL")]

/-- The throughput that two parameters give, unless the table is billed on demand. -/
def statedThroughput : Json :=
  .obj [("Fn::If", .arr [.str "ShouldUsePayPerRequestBilling", .obj [("Ref", .str "AWS::NoValue")],
    .obj [("ReadCapacityUnits", .obj [("Ref", .str "DynamoDBModelTableReadIOPS")]),
      ("WriteCapacityUnits", .obj [("Ref", .str "DynamoDBModelTableWriteIOPS")])]])]

/-- A global index: its name, its own key, the projection and the throughput that all of them share. -/
def statedGlobal (i : GlobalIndex) : Json :=
  .obj [("indexName", .str i.name), ("keySchema", statedKey i.partition.name i.sort), ("projection", statedProjection),
    ("provisionedThroughput", statedThroughput)]

/-- A local index: its name, the partition key of the table with its own sort key, and the projection. -/
def statedLocal (partition : String) (i : LocalIndex) : Json :=
  .obj [("indexName", .str i.name), ("keySchema", statedKey partition i.sort), ("projection", statedProjection)]

/-- The property of a table that lists something, which is absent when there is nothing to list. -/
def statedList {α : Type} (statement : α → Json) (l : List α) : Option Json :=
  if l.isEmpty then none else some (.arr (l.map statement))

/-- What the managed view says about each property of the resource. -/
def stated (t : Table) (property : String) : Option Json :=
  if property = "tableName" then some (.str t.name)
  else if property = "keySchema" then some (.arr (t.keySchema.map statedElement))
  else if property = "attributeDefinitions" then some (.arr (t.attributes.map statedAttribute))
  else if property = "globalSecondaryIndexes" then statedList statedGlobal t.globalIndexes
  else if property = "localSecondaryIndexes" then statedList (statedLocal t.partitionKey.name) t.localIndexes
  else none

/-- The resource states the managed view and nothing else. -/
def Mirrors (t : Table) : Prop := ∀ property, t.raw.effective.get? property = t.stated property

theorem keySchemaJson_eq (elements : List KeyElement) : keySchemaJson elements = .arr (elements.map statedElement) := by
  have hstated : ∀ e : KeyElement, e.toJson = statedElement e := by
    rintro ⟨name, _ | _⟩ <;> rfl
  simp only [keySchemaJson, hstated]

theorem attributesJson_eq (attributes : List AttributeDef) :
    attributesJson attributes = .arr (attributes.map statedAttribute) := by
  have hstated : ∀ a : AttributeDef, a.toJson = statedAttribute a := by
    rintro ⟨name, _ | _⟩ <;> rfl
  simp only [attributesJson, hstated]

theorem keySchemaJson_indexElements (partition : String) (sort : Option TableKey) :
    keySchemaJson (indexElements partition sort) = statedKey partition sort := by
  cases sort <;> rfl

theorem descriptor_global : GlobalIndex.descriptor = statedGlobal := by
  funext i
  unfold GlobalIndex.descriptor
  rw [keySchemaJson_indexElements]
  rfl

theorem descriptor_local (partition : String) : LocalIndex.descriptor partition = statedLocal partition := by
  funext i
  unfold LocalIndex.descriptor
  rw [keySchemaJson_indexElements]
  rfl

theorem statedList_append {α : Type} (statement : α → Json) (l : List α) (a : α) :
    statedList statement (l ++ [a]) = some (.arr (l.map statement ++ [statement a])) := by
  simp [statedList]

/-- As `stated`, with local indexes on a partition key that the table need not have any more. -/
def statedWith (partition : String) (t : Table) (property : String) : Option Json :=
  if property = "localSecondaryIndexes" then statedList (statedLocal partition) t.localIndexes else t.stated property

theorem statedWith_self (t : Table) : t.statedWith t.partitionKey.name = t.stated := by
  funext property
  unfold statedWith
  split
  next h => subst h; rfl
  next => rfl

/-- Without local indexes no partition key is stated. -/
theorem statedWith_of_noLocals {t : Table} (h : t.localIndexes = []) (partition : String) :
    t.statedWith partition = t.stated := by
  rw [← statedWith_self]
  funext property
  simp only [statedWith, h]
  rfl

/-- A table that is changed in place and whose properties state the managed view, with local indexes on a given
partition key. -/
structure StatesInPlace (partition : String) (t : Table) : Prop where
  direct : t.provisioning = .direct
  overrides : t.raw.overrides = .empty
  states : ∀ property, t.raw.properties.get? property = t.statedWith partition property

/-- Replacing the key leaves local indexes as they are stated. -/
theorem StatesInPlace.replaceKey {partition : String} {t : Table} (h : t.StatesInPlace partition)
    (keySchema : List KeyElement) (attributes : List AttributeDef) :
    (t.replaceKey keySchema attributes).StatesInPlace partition := by
  obtain ⟨hd, ho, hs⟩ := h
  obtain ⟨id, name, stackId, provisioning, oldKey, oldAttributes, partitionKey, globals, locals, raw⟩ := t
  simp only at hd ho hs
  subst hd
  refine ⟨rfl, ho, fun property => ?_⟩
  show ((raw.properties.insert "keySchema" (keySchemaJson keySchema)).insert "attributeDefinitions"
    (attributesJson _)).get? property = _
  rw [keySchemaJson_eq, attributesJson_eq, OrderedMap.get?_insert, OrderedMap.get?_insert, hs property]
  by_cases h1 : property = "attributeDefinitions"
  · subst h1; rfl
  · by_cases h2 : property = "keySchema"
    · subst h2; rfl
    · by_cases h3 : property = "localSecondaryIndexes"
      · subst h3; rfl
      · simp only [h1, h2, h3, if_false, statedWith, stated]
        rfl

theorem StatesInPlace.addGlobalIndex {partition : String} {t : Table} (h : t.StatesInPlace partition)
    (index : GlobalIndex) : (t.addGlobalIndex index).StatesInPlace partition := by
  obtain ⟨hd, ho, hs⟩ := h
  obtain ⟨id, name, stackId, provisioning, keySchema, attributes, partitionKey, globals, locals, raw⟩ := t
  simp only at hd ho hs
  subst hd
  refine ⟨rfl, ho, fun property => ?_⟩
  let added := attributesJson
    (registerAll attributes (index.partition.definition :: index.sort.toList.map TableKey.definition))
  have hitems : (((raw.setProperty .direct "attributeDefinitions" added).properties.get? "globalSecondaryIndexes").getD
      (.arr [])) = .arr (globals.map statedGlobal) := by
    show ((raw.properties.insert "attributeDefinitions" added).get? _).getD _ = _
    rw [OrderedMap.get?_insert, if_neg (by decide), hs]
    cases globals <;> rfl
  show (RawTable.appendProperty .direct "globalSecondaryIndexes" globals.length index.descriptor
    (raw.setProperty .direct "attributeDefinitions" added)).properties.get? property = _
  rw [RawTable.appendProperty_direct hitems, descriptor_global]
  show ((raw.properties.insert "attributeDefinitions" (attributesJson _)).insert "globalSecondaryIndexes" _).get?
    property = _
  rw [attributesJson_eq, OrderedMap.get?_insert, OrderedMap.get?_insert, hs property]
  by_cases h1 : property = "globalSecondaryIndexes"
  · subst h1
    exact (statedList_append statedGlobal globals index).symm
  · by_cases h2 : property = "attributeDefinitions"
    · subst h2; rfl
    · simp only [h1, h2, if_false, statedWith, stated]
      rfl

/-- Adding a local index states all of them anew, with the partition key that the table has now. -/
theorem StatesInPlace.addLocalIndex {partition : String} {t : Table} (h : t.StatesInPlace partition)
    (index : LocalIndex) : (t.addLocalIndex index).StatesInPlace t.partitionKey.name := by
  obtain ⟨hd, ho, hs⟩ := h
  obtain ⟨id, name, stackId, provisioning, keySchema, attributes, partitionKey, globals, locals, raw⟩ := t
  simp only at hd ho hs
  subst hd
  refine ⟨rfl, ho, fun property => ?_⟩
  show ((raw.properties.insert "attributeDefinitions" (attributesJson _)).insert "localSecondaryIndexes"
    (.arr ((locals ++ [index]).map (LocalIndex.descriptor partitionKey.name)))).get? property = _
  rw [attributesJson_eq, descriptor_local, OrderedMap.get?_insert, OrderedMap.get?_insert, hs property]
  by_cases h1 : property = "localSecondaryIndexes"
  · subst h1
    rw [List.map_append]
    exact (statedList_append (statedLocal partitionKey.name) locals index).symm
  · by_cases h2 : property = "attributeDefinitions"
    · subst h2; rfl
    · simp only [h1, h2, if_false, statedWith, stated]
      rfl

/-- A table that is changed in place and whose properties state the managed view. -/
structure MirrorsInPlace (t : Table) : Prop where
  direct : t.provisioning = .direct
  overrides : t.raw.overrides = .empty
  states : ∀ property, t.raw.properties.get? property = t.stated property

theorem mirrorsInPlace_iff {t : Table} : t.MirrorsInPlace ↔ t.StatesInPlace t.partitionKey.name :=
  ⟨fun h => ⟨h.direct, h.overrides, by rw [statedWith_self]; exact h.states⟩,
    fun h => ⟨h.direct, h.overrides, by rw [← statedWith_self]; exact h.states⟩⟩

theorem MirrorsInPlace.mirrors {t : Table} (h : t.MirrorsInPlace) : t.Mirrors := by
  intro property
  rw [RawTable.effective_of_empty h.overrides]
  exact h.states property

theorem mirrorsInPlace_new (model name : String) : (Table.new model name .direct).MirrorsInPlace where
  direct := rfl
  overrides := rfl
  states property := by
    have hprops : (Table.new model name .direct).raw.properties =
        ((OrderedMap.empty.insert "tableName" (.str name)).insert "keySchema" (keySchemaJson [⟨"id", .hash⟩])).insert
          "attributeDefinitions" (attributesJson [⟨"id", .s⟩]) := rfl
    rw [hprops, keySchemaJson_eq, attributesJson_eq]
    simp only [OrderedMap.get?_insert, OrderedMap.get?_empty, stated, new, statedList, List.isEmpty_nil, if_true,
      ite_self]
    by_cases h1 : property = "tableName"
    · subst h1; rfl
    · by_cases h2 : property = "keySchema"
      · subst h2; rfl
      · simp only [h1, h2, if_false]

/-- Local indexes state the partition key, so there must be none when the key is replaced. -/
theorem MirrorsInPlace.replaceKey {t : Table} (h : t.MirrorsInPlace) (hl : t.localIndexes = [])
    (keySchema : List KeyElement) (attributes : List AttributeDef) :
    (t.replaceKey keySchema attributes).MirrorsInPlace := by
  have hreplaced := (mirrorsInPlace_iff.1 h).replaceKey keySchema attributes
  refine ⟨hreplaced.direct, hreplaced.overrides, fun property => ?_⟩
  rw [hreplaced.states property, statedWith_of_noLocals (t := t.replaceKey keySchema attributes) hl]

theorem MirrorsInPlace.addGlobalIndex {t : Table} (h : t.MirrorsInPlace) (index : GlobalIndex) :
    (t.addGlobalIndex index).MirrorsInPlace := mirrorsInPlace_iff.2 ((mirrorsInPlace_iff.1 h).addGlobalIndex index)

theorem MirrorsInPlace.addLocalIndex {t : Table} (h : t.MirrorsInPlace) (index : LocalIndex) :
    (t.addLocalIndex index).MirrorsInPlace := mirrorsInPlace_iff.2 ((mirrorsInPlace_iff.1 h).addLocalIndex index)

/-! ## keys first, then indexes -/

/-- The changes that give a table one key after the other. -/
def keyChanges (doc : Schema.Document) (keys : List Key) : List TableChange :=
  keys.map fun k => .replaceKey k.elements (k.attributes doc)

/-- What every change of a list keeps holds after all of them. -/
theorem foldl_apply_preserves {P : Table → Prop} {changes : List TableChange}
    (hstep : ∀ c ∈ changes, ∀ t, P t → P (t.apply c)) {t : Table} (h : P t) : P (changes.foldl Table.apply t) := by
  induction changes generalizing t with
  | nil => exact h
  | cons c changes ih =>
    exact ih (fun c' hc' => hstep c' (List.mem_cons_of_mem _ hc')) (hstep c List.mem_cons_self t h)

/-- Keys that are replaced before there is any index leave a consistent table without indexes. -/
theorem keyed_consistent (doc : Schema.Document) (keys : List Key) {t : Table} (h : t.Consistent)
    (hg : t.globalIndexes = []) (hl : t.localIndexes = []) :
    let u := (keyChanges doc keys).foldl Table.apply t
    u.Consistent ∧ u.globalIndexes = [] ∧ u.localIndexes = [] := by
  refine foldl_apply_preserves (P := fun u => u.Consistent ∧ u.globalIndexes = [] ∧ u.localIndexes = [])
    (fun c hc u hu => ?_) ⟨h, hg, hl⟩
  obtain ⟨k, -, rfl⟩ := List.mem_map.1 hc
  exact ⟨hu.1.replaceKey hu.2.1 hu.2.2 doc k, hu.2⟩

theorem keyed_mirrors (doc : Schema.Document) (keys : List Key) {t : Table} (h : t.MirrorsInPlace)
    (hl : t.localIndexes = []) : ((keyChanges doc keys).foldl Table.apply t).MirrorsInPlace := by
  have hkeyed := foldl_apply_preserves (P := fun u => u.MirrorsInPlace ∧ u.localIndexes = [])
    (fun c (hc : c ∈ keyChanges doc keys) u hu => ?_) ⟨h, hl⟩
  · exact hkeyed.1
  · obtain ⟨k, -, rfl⟩ := List.mem_map.1 hc
    exact ⟨hu.1.replaceKey hu.2 _ _, hu.2⟩

/-- Indexes can be added in any order. -/
theorem Consistent.apply {t : Table} (h : t.Consistent) {c : TableChange} (hc : c.addsIndex = true) :
    (t.apply c).Consistent := by
  cases c with
  | replaceKey keySchema attributes => cases hc
  | addGlobal index => exact h.addGlobalIndex index
  | addLocal index => exact h.addLocalIndex index

theorem MirrorsInPlace.apply {t : Table} (h : t.MirrorsInPlace) {c : TableChange} (hc : c.addsIndex = true) :
    (t.apply c).MirrorsInPlace := by
  cases c with
  | replaceKey keySchema attributes => cases hc
  | addGlobal index => exact h.addGlobalIndex index
  | addLocal index => exact h.addLocalIndex index

/-- What a table is after keys and then indexes, however it is provisioned. -/
theorem keyed_then_indexed (model name : String) (provisioning : Provisioning) (doc : Schema.Document)
    (keys : List Key) (changes : List TableChange) (hc : ∀ c ∈ changes, c.addsIndex = true) :
    let t := (keyChanges doc keys ++ changes).foldl Table.apply (Table.new model name provisioning)
    t.Consistent ∧ (t.globalIndexes.length ≤ UInt64.size → t.Mirrors) := by
  intro t
  refine ⟨?_, fun hn => ?_⟩
  · have hkeyed := keyed_consistent doc keys (consistent_new model name provisioning) rfl rfl
    have hindexed := foldl_apply_preserves (fun c hm u (hu : u.Consistent) => hu.apply (hc c hm)) hkeyed.1
    rwa [← List.foldl_append] at hindexed
  · have hdirect :
        ((keyChanges doc keys ++ changes).foldl Table.apply (Table.new model name .direct)).MirrorsInPlace := by
      rw [List.foldl_append]
      exact foldl_apply_preserves (fun c hm u (hu : u.MirrorsInPlace) => hu.apply (hc c hm))
        (keyed_mirrors doc keys (mirrorsInPlace_new model name) rfl)
    cases provisioning with
    | direct => exact hdirect.mirrors
    | custom =>
      -- the twin that is changed in place has the same managed view
      have htwin := (Twins.new model name).run (keyChanges doc keys ++ changes)
      have hview : t = _ := htwin.managed
      have hglobal : t.globalIndexes = _ := congrArg Table.globalIndexes hview
      rw [hglobal] at hn
      intro property
      rw [← htwin.effective_eq hn, hdirect.mirrors property, hview]
      rfl

end Table

end ModelApi
