import ModelApi.Proofs.Table.Overrides

/-!
# The two ways to provision a table

A table that is changed in place and a table that only collects overrides agree: after the same changes they have the
same managed view, and the overrides replay to the properties of the other table.

* `LogOf n direct custom log` relates the two resources while `n` global indexes are stated;
* `LogOf.setProperty` and `LogOf.appendItem` are its two steps, `Twins.apply` is one change of a table and
  `Twins.run` any number of them.
-/

namespace ModelApi

open OrderedMap (find put)

/-- The property that lists global indexes, the only one that is changed item by item. -/
def globalIndexProperty : String := "globalSecondaryIndexes"

namespace RawTable

/-- In place, an item is put behind those that the list holds; a missing list holds none. -/
theorem appendProperty_direct {raw : RawTable} {name : String} {items : List Json}
    (h : (raw.properties.get? name).getD (.arr []) = .arr items) (position : Nat) (value : Json) :
    raw.appendProperty .direct name position value =
      { raw with properties := raw.properties.insert name (.arr (items ++ [value])) } := by
  unfold appendProperty
  cases hget : raw.properties.get? name with
  | none =>
    rw [hget] at h
    cases h
    rfl
  | some j =>
    rw [hget] at h
    cases h
    rfl

/-- `log` is what `custom` keeps as overrides, and it replays to the properties of `direct`. Items of the list of global
indexes stand at positions below `n`, the number of items so far; every other property is written as a whole. -/
structure LogOf (n : Nat) (direct custom : RawTable) (log : List (Place × Json)) : Prop where
  overrides : custom.overrides.entries = overridesOf log
  names : ∀ e ∈ log, '.' ∉ e.1.name.toList
  positions : ∀ e ∈ log, ∀ i, e.1.position = some i → i < n
  whole : ∀ e ∈ log, e.1.name ≠ globalIndexProperty → e.1.position = none
  replayed : replay log custom.properties.entries = direct.properties.entries
  items : ∃ items, (direct.properties.get? globalIndexProperty).getD (.arr []) = .arr items ∧ items.length = n

namespace LogOf

variable {n : Nat} {direct custom : RawTable} {log : List (Place × Json)}

theorem nodup (h : LogOf n direct custom log) : (log.map Prod.fst).Nodup := by
  have hn := custom.overrides.nodup
  rw [h.overrides, overridesOf, List.map_map] at hn
  have hpath : (Prod.fst ∘ fun e : Place × Json => (e.1.path, e.2)) = Place.path ∘ Prod.fst := rfl
  rw [hpath, ← List.map_map] at hn
  exact List.Pairwise.of_map Place.path (fun p q hpq e => hpq (congrArg Place.path e)) hn

/-- Both resources can set a property that is written as a whole. -/
theorem setProperty (h : LogOf n direct custom log) {name : String} (hname : name ≠ globalIndexProperty)
    (hdot : '.' ∉ name.toList) (value : Json) :
    LogOf n (direct.setProperty .direct name value) (custom.setProperty .custom name value)
      (put ⟨name, none⟩ value log) := by
  have hmem : ∀ e ∈ put ⟨name, none⟩ value log, e.1 = ⟨name, none⟩ ∨ ∃ e' ∈ log, e'.1 = e.1 := by
    intro e he
    have hk : e.1 ∈ (put (⟨name, none⟩ : Place) value log).map Prod.fst := List.mem_map_of_mem he
    rw [OrderedMap.map_fst_put] at hk
    split at hk
    · exact .inr (List.mem_map.1 hk)
    · rcases List.mem_append.1 hk with hk | hk
      · exact .inr (List.mem_map.1 hk)
      · exact .inl (List.mem_singleton.1 hk)
  refine ⟨?_, ?_, ?_, ?_, ?_, ?_⟩
  · show put ("Properties." ++ name) value custom.overrides.entries = _
    rw [h.overrides]
    exact put_overridesOf (p := ⟨name, none⟩) value hdot log h.names
  · intro e he
    rcases hmem e he with hq | ⟨e', he', hq⟩
    · rw [hq]; exact hdot
    · rw [← hq]; exact h.names e' he'
  · intro e he i hi
    rcases hmem e he with hq | ⟨e', he', hq⟩
    · rw [hq] at hi; cases hi
    · rw [← hq] at hi; exact h.positions e' he' i hi
  · intro e he hne
    rcases hmem e he with hq | ⟨e', he', hq⟩
    · rw [hq]
    · rw [← hq] at hne ⊢; exact h.whole e' he' hne
  · have hwhole : ∀ e ∈ log, e.1.name = name → e.1.position = none := fun e he hq => h.whole e he (hq ▸ hname)
    show replay _ custom.properties.entries = put name value direct.properties.entries
    rw [replay_put value log _ h.nodup hwhole, h.replayed]
  · obtain ⟨items, hitems, hlen⟩ := h.items
    refine ⟨items, ?_, hlen⟩
    show ((direct.properties.insert name value).get? globalIndexProperty).getD _ = _
    rw [OrderedMap.get?_insert, if_neg hname.symm, hitems]

/-- Both resources can append an item to the list of global indexes. -/
theorem appendItem (h : LogOf n direct custom log) (value : Json) :
    LogOf (n + 1) (direct.appendProperty .direct globalIndexProperty n value)
      (custom.appendProperty .custom globalIndexProperty n value)
      (log ++ [(⟨globalIndexProperty, some n⟩, value)]) := by
  obtain ⟨items, hitems, hlen⟩ := h.items
  have hdot : '.' ∉ globalIndexProperty.toList := by decide
  -- all positions so far are below `n`, so the log gets a new entry and none is replaced
  have hnew : (⟨globalIndexProperty, some n⟩ : Place) ∉ log.map Prod.fst := by
    intro hk
    obtain ⟨e, he, hq⟩ := List.mem_map.1 hk
    have := h.positions e he n (by rw [hq])
    omega
  have hput : put ⟨globalIndexProperty, some n⟩ value log = log ++ [(⟨globalIndexProperty, some n⟩, value)] :=
    OrderedMap.put_of_find_none ((OrderedMap.find_eq_none_iff _ _).2 hnew)
  have hdirect := appendProperty_direct hitems n value
  have hset : setItem items n (fun _ => value) = items ++ [value] := by
    subst hlen
    simp [setItem, List.modify_eq_take_drop]
  refine ⟨?_, ?_, ?_, ?_, ?_, ?_⟩
  · show put ("Properties." ++ globalIndexProperty ++ "." ++ toString n) value custom.overrides.entries = _
    rw [h.overrides, ← hput]
    exact put_overridesOf (p := ⟨globalIndexProperty, some n⟩) value hdot log h.names
  · intro e he
    rcases List.mem_append.1 he with he | he
    · exact h.names e he
    · rw [List.mem_singleton.1 he]; exact hdot
  · intro e he i hi
    rcases List.mem_append.1 he with he | he
    · have := h.positions e he i hi
      omega
    · rw [List.mem_singleton.1 he] at hi
      cases hi
      omega
  · intro e he hne
    rcases List.mem_append.1 he with he | he
    · exact h.whole e he hne
    · rw [List.mem_singleton.1 he] at hne
      exact absurd rfl hne
  · rw [hdirect]
    show replay _ custom.properties.entries = put globalIndexProperty _ direct.properties.entries
    rw [replay_append, h.replayed]
    show put _ (Place.putItem n value ((direct.properties.get? globalIndexProperty).getD (.arr []))) _ = _
    rw [hitems, Place.putItem, hset]
  · refine ⟨items ++ [value], ?_, by simp [hlen]⟩
    rw [hdirect]
    show ((direct.properties.insert globalIndexProperty _).get? globalIndexProperty).getD _ = _
    rw [OrderedMap.get?_insert, if_pos rfl]
    rfl

/-- As long as all positions fit 64 bits, the two resources have the same effective properties. -/
theorem effective_eq (h : LogOf n direct custom log) (hdirect : direct.overrides = .empty) (hn : n ≤ UInt64.size) :
    direct.effective = custom.effective := by
  have hlog : ∀ e ∈ log, '.' ∉ e.1.name.toList ∧ ∀ i, e.1.position = some i → i < UInt64.size := by
    intro e he
    refine ⟨h.names e he, fun i hi => ?_⟩
    have := h.positions e he i hi
    omega
  rw [effective_of_empty hdirect, effective_of_log h.overrides hlog, h.replayed, OrderedMap.ofList_entries]

end LogOf

end RawTable

/-! ## tables -/

namespace Table

/-- The table with another resource. -/
def withRaw (t : Table) (provisioning : Provisioning) (raw : RawTable) : Table := { t with provisioning, raw }

/-- The managed view changes without regard to the resource. -/
theorem apply_withRaw (t : Table) (c : TableChange) (provisioning : Provisioning) (raw : RawTable) :
    (t.withRaw provisioning raw).apply c =
      (t.apply c).withRaw provisioning ((t.withRaw provisioning raw).apply c).raw := by
  cases c <;> rfl

/-- Two tables with one managed view: `t` is changed in place, and `u`, which started with the properties `start`, keeps
its changes as overrides. -/
structure Twins (start : OrderedMap String Json) (t u : Table) : Prop where
  direct : t.provisioning = .direct
  managed : u = t.withRaw .custom u.raw
  overrides : t.raw.overrides = .empty
  properties : u.raw.properties = start
  log : ∃ log, RawTable.LogOf t.globalIndexes.length t.raw u.raw log

theorem Twins.new (model name : String) :
    Twins (Table.new model name .custom).raw.properties (Table.new model name .direct)
      (Table.new model name .custom) where
  direct := rfl
  managed := rfl
  overrides := rfl
  properties := rfl
  log := ⟨[], {
    overrides := rfl
    names := by simp
    positions := by simp
    whole := by simp
    replayed := rfl
    items := ⟨[], rfl, rfl⟩ }⟩

/-- One change keeps two tables alike. -/
theorem Twins.apply {start : OrderedMap String Json} {t u : Table} (h : Twins start t u) (c : TableChange) :
    Twins start (t.apply c) (u.apply c) := by
  obtain ⟨hd, hm, ho, hp, log, hlog⟩ := h
  -- the managed view is the same, so `u` is `t` but for its resource `r`
  obtain ⟨id, name, stackId, provisioning, keySchema, attributes, partitionKey, globals, locals, raw⟩ := t
  generalize u.raw = r at hm hp hlog
  subst hm
  simp only at hd ho hlog
  subst hd
  have hmanaged := apply_withRaw ⟨id, name, stackId, .direct, keySchema, attributes, partitionKey, globals, locals, raw⟩
    c .custom r
  cases c with
  | replaceKey newKey newAttributes =>
    refine ⟨rfl, hmanaged, ho, hp, ?_⟩
    exact ⟨_, (hlog.setProperty (by decide) (by decide) _).setProperty (by decide) (by decide) _⟩
  | addGlobal index =>
    refine ⟨rfl, hmanaged, ho, hp, ?_⟩
    have hname : "attributeDefinitions" ≠ globalIndexProperty := by decide
    have hstep := (hlog.setProperty hname (by decide) (attributesJson (registerAll attributes
      (index.partition.definition :: index.sort.toList.map TableKey.definition)))).appendItem index.descriptor
    rw [show globals.length + 1 = (globals ++ [index]).length by simp] at hstep
    exact ⟨_, hstep⟩
  | addLocal index =>
    refine ⟨rfl, hmanaged, ho, hp, ?_⟩
    exact ⟨_, (hlog.setProperty (by decide) (by decide) _).setProperty (by decide) (by decide) _⟩

/-- Any number of changes keeps two tables alike. -/
theorem Twins.run {start : OrderedMap String Json} (changes : List TableChange) {t u : Table} (h : Twins start t u) :
    Twins start (changes.foldl Table.apply t) (changes.foldl Table.apply u) := by
  induction changes generalizing t u with
  | nil => exact h
  | cons c changes ih => exact ih (h.apply c)

theorem Twins.effective_eq {start : OrderedMap String Json} {t u : Table} (h : Twins start t u)
    (hn : t.globalIndexes.length ≤ UInt64.size) : t.raw.effective = u.raw.effective := by
  obtain ⟨log, hlog⟩ := h.log
  exact hlog.effective_eq h.overrides hn

/-- **The two ways to provision a table are equivalent.** After any changes, made in place or kept as overrides, the
managed views are equal, and so are the effective properties, although the one table never has an override and the other
keeps the properties it was created with. Positions in paths have 64 bits, and so does the length of a list. -/
theorem provisioning_irrelevant (model name : String) (changes : List TableChange) :
    let direct := changes.foldl Table.apply (Table.new model name .direct)
    let custom := changes.foldl Table.apply (Table.new model name .custom)
    direct.keySchema = custom.keySchema ∧ direct.attributes = custom.attributes ∧
      direct.partitionKey = custom.partitionKey ∧ direct.globalIndexes = custom.globalIndexes ∧
      direct.localIndexes = custom.localIndexes ∧ direct.raw.overrides = .empty ∧
      custom.raw.properties = (Table.new model name .custom).raw.properties ∧
      (direct.globalIndexes.length ≤ UInt64.size → direct.raw.effective = custom.raw.effective) := by
  intro direct custom
  have h := (Twins.new model name).run changes
  have hview : custom = direct.withRaw .custom custom.raw := h.managed
  refine ⟨?_, ?_, ?_, ?_, ?_, h.overrides, h.properties, h.effective_eq⟩ <;> rw [hview] <;> rfl

/-- An index of each kind, and a key that is replaced between and behind them. -/
theorem provisioning_irrelevant_mixed :
    let author : TableKey := ⟨"author", .s⟩
    let changes : List TableChange := [
      .addGlobal ⟨"byAuthor", author, none, .null, .null⟩, .addLocal ⟨"byDate", some author⟩,
      .replaceKey [⟨"slug", .hash⟩] [⟨"slug", .s⟩], .addGlobal ⟨"bySlug", ⟨"slug", .s⟩, some author, .null, .null⟩,
      .replaceKey [⟨"author", .hash⟩, ⟨"slug", .range⟩] [⟨"author", .n⟩, ⟨"slug", .s⟩]]
    let direct := changes.foldl Table.apply (Table.new "Post" "posts" .direct)
    let custom := changes.foldl Table.apply (Table.new "Post" "posts" .custom)
    direct.globalIndexes.length ≤ UInt64.size ∧ direct.raw.effective = custom.raw.effective := by
  intro author changes direct custom
  have hn : direct.globalIndexes.length ≤ UInt64.size := by decide
  exact ⟨hn, (provisioning_irrelevant "Post" "posts" changes).2.2.2.2.2.2.2 hn⟩

end Table

end ModelApi
