import ModelApi.Proofs.Table.Consistency

/-!
# What the resource states after any changes

A change of a table copies to the resource what it thinks it has changed. Attribute definitions, the key schema and
global indexes are always up to date that way. Local indexes are not: they are stated with the partition key of the
table, and replacing the key does not state them again.

* `localPartition?`: the partition key that local indexes are stated with, read off the changes;
* `StatesInPlace.apply` and `StatesInPlace.run`: one change, and any number of them;
* `states_run`, `locals_run`: the effective properties of the resource, however the table is provisioned;
* `resource_after_changes`: what is up to date, and exactly when all of it is.
-/

namespace ModelApi.Table

/-- The partition key that local indexes are stated with after changes: the one that the table had when the last of them
was added. -/
def localPartition? (t : Table) : List TableChange → Option String
  | [] => none
  | c :: changes => ((t.apply c).localPartition? changes).or (c.local?.map fun _ => t.partitionKey.name)

/-! ## runs of changes -/

theorem StatesInPlace.apply {partition : String} {t : Table} (h : t.StatesInPlace partition) (c : TableChange) :
    (t.apply c).StatesInPlace ((c.local?.map fun _ => t.partitionKey.name).getD partition) := by
  cases c with
  | replaceKey keySchema attributes => exact h.replaceKey keySchema attributes
  | addGlobal index => exact h.addGlobalIndex index
  | addLocal index => exact h.addLocalIndex index

theorem StatesInPlace.run {partition : String} (changes : List TableChange) {t : Table}
    (h : t.StatesInPlace partition) :
    (changes.foldl Table.apply t).StatesInPlace ((t.localPartition? changes).getD partition) := by
  induction changes generalizing t partition with
  | nil => exact h
  | cons c changes ih =>
    have hrest := ih (h.apply c)
    rw [localPartition?, Option.getD_or]
    exact hrest

theorem localIndexes_apply (t : Table) (c : TableChange) :
    (t.apply c).localIndexes = t.localIndexes ++ c.local?.toList := by
  cases c with
  | addLocal index => rfl
  | _ => exact (List.append_nil _).symm

/-- A partition key is stated as soon as there is a local index. -/
theorem localIndexes_run (changes : List TableChange) (t : Table) :
    (changes.foldl Table.apply t).localIndexes = [] ↔ t.localIndexes = [] ∧ t.localPartition? changes = none := by
  induction changes generalizing t with
  | nil => simp [localPartition?]
  | cons c changes ih =>
    rw [List.foldl_cons, ih, localIndexes_apply, localPartition?]
    cases c.local? <;> simp

/-- The managed view does not depend on how the table is provisioned, so neither does the stated partition key. -/
theorem localPartition?_withRaw (changes : List TableChange) (t : Table) (provisioning : Provisioning)
    (raw : RawTable) : (t.withRaw provisioning raw).localPartition? changes = t.localPartition? changes := by
  induction changes generalizing t raw with
  | nil => rfl
  | cons c changes ih =>
    rw [localPartition?, localPartition?, apply_withRaw, ih]
    rfl

/-! ## effective properties -/

/-- What a resource states after changes of a new table. Where no local index was added, any partition key will do. -/
theorem states_run (model name : String) (provisioning : Provisioning) (changes : List TableChange)
    (partition : String) :
    let start := Table.new model name provisioning
    let t := changes.foldl Table.apply start
    t.globalIndexes.length ≤ UInt64.size → ∀ property,
      t.raw.effective.get? property = t.statedWith ((start.localPartition? changes).getD partition) property := by
  intro start t hn property
  have hnew : (Table.new model name .direct).StatesInPlace partition := by
    have hmirrors := mirrorsInPlace_new model name
    refine ⟨hmirrors.direct, hmirrors.overrides, ?_⟩
    rw [statedWith_of_noLocals rfl]
    exact hmirrors.states
  have hdirect := hnew.run changes
  cases provisioning with
  | direct =>
    rw [RawTable.effective_of_empty hdirect.overrides]
    exact hdirect.states property
  | custom =>
    -- the twin that is changed in place has the same managed view
    have htwin := (Twins.new model name).run changes
    have hview : t = _ := htwin.managed
    have hglobal : t.globalIndexes = _ := congrArg Table.globalIndexes hview
    have hstart : start = (Table.new model name .direct).withRaw .custom start.raw := rfl
    rw [hglobal] at hn
    rw [← htwin.effective_eq hn, RawTable.effective_of_empty hdirect.overrides, hdirect.states property, hstart,
      localPartition?_withRaw, hview]
    rfl

/-- The list of local indexes is stated exactly when there are some. -/
theorem stated_locals {t : Table} (partition : String) (h : t.localIndexes ≠ []) :
    t.statedWith partition "localSecondaryIndexes" = some (.arr (t.localIndexes.map (statedLocal partition))) := by
  simp [statedWith, statedList, h]

/-- Local indexes are all stated with one partition key, that of the last of them. -/
theorem locals_run (model name : String) (provisioning : Provisioning) (changes : List TableChange) :
    let start := Table.new model name provisioning
    let t := changes.foldl Table.apply start
    t.globalIndexes.length ≤ UInt64.size →
      t.raw.effective.get? "localSecondaryIndexes" = (start.localPartition? changes).map
        fun partition => .arr (t.localIndexes.map (statedLocal partition)) := by
  intro start t hn
  have hempty : t.localIndexes = [] ↔ start.localIndexes = [] ∧ start.localPartition? changes = none :=
    localIndexes_run changes start
  have hstates : t.raw.effective.get? "localSecondaryIndexes" =
      t.statedWith ((start.localPartition? changes).getD "id") "localSecondaryIndexes" :=
    states_run model name provisioning changes "id" hn _
  rw [hstates]
  cases hlast : start.localPartition? changes with
  | none =>
    have hnone : t.localIndexes = [] := hempty.2 ⟨rfl, hlast⟩
    simp [statedWith, statedList, hnone]
  | some partition =>
    refine stated_locals partition fun hnone => ?_
    rw [(hempty.1 hnone).2] at hlast
    cases hlast

theorem statedLocal_injective {partition other : String} {i : LocalIndex}
    (h : statedLocal partition i = statedLocal other i) : partition = other := by
  simp only [statedLocal, statedKey, Json.obj.injEq, List.cons.injEq, Prod.mk.injEq, Json.arr.injEq, Json.str.injEq,
    true_and, and_true] at h
  exact h

/-- **What the resource states after any changes.** However a table is provisioned and in whatever order it is changed,
its resource, with all overrides in place, states its name, its key schema, its attribute definitions and its global
indexes as they are now, in order. It lists the local indexes in order, with their names, projections and sort keys, but
on the partition key that the table had when the last of them was added. So the resource states just the managed view
exactly when there are no local indexes or the partition key has the same name since. Positions of global indexes have
64 bits. -/
theorem resource_after_changes (model name : String) (provisioning : Provisioning) (changes : List TableChange) :
    let start := Table.new model name provisioning
    let t := changes.foldl Table.apply start
    t.globalIndexes.length ≤ UInt64.size →
      (∀ property, property ≠ "localSecondaryIndexes" → t.raw.effective.get? property = t.stated property) ∧
      t.raw.effective.get? "localSecondaryIndexes" = (start.localPartition? changes).map
        (fun partition => .arr (t.localIndexes.map (statedLocal partition))) ∧
      (t.Mirrors ↔ ∀ partition, start.localPartition? changes = some partition → partition = t.partitionKey.name) := by
  intro start t hn
  have hstates : ∀ partition property, t.raw.effective.get? property =
      t.statedWith ((start.localPartition? changes).getD partition) property :=
    fun partition => states_run model name provisioning changes partition hn
  have hlocals := locals_run model name provisioning changes hn
  refine ⟨fun property hproperty => ?_, hlocals, fun hmirrors partition hlast => ?_, fun hsame property => ?_⟩
  · rw [hstates "id", statedWith, if_neg hproperty]
  · -- the list has an index, whose statement shows the partition key
    have hlisted : t.localIndexes ≠ [] := by
      intro hnone
      rw [((localIndexes_run changes start).1 hnone).2] at hlast
      cases hlast
    obtain ⟨i, rest, hi⟩ := List.exists_cons_of_ne_nil hlisted
    have hstated := (hmirrors "localSecondaryIndexes").symm.trans hlocals
    rw [← statedWith_self, stated_locals _ hlisted, hlast, Option.map_some, Option.some.injEq, Json.arr.injEq, hi,
      List.map_cons, List.map_cons, List.cons.injEq] at hstated
    exact (statedLocal_injective hstated.1).symm
  · rw [hstates t.partitionKey.name, ← statedWith_self]
    cases hlast : start.localPartition? changes with
    | none => rfl
    | some partition => rw [hsame partition hlast]; rfl

/-- The key is replaced behind a local index, and keeps its partition key. -/
theorem resource_after_sort_key :
    let start := Table.new "Post" "posts" .custom
    let changes : List TableChange := [
      .replaceKey [⟨"slug", .hash⟩] [⟨"slug", .s⟩], .addLocal ⟨"byDate", some ⟨"date", .s⟩⟩,
      .addGlobal ⟨"byAuthor", ⟨"author", .s⟩, none, .null, .null⟩,
      .replaceKey [⟨"slug", .hash⟩, ⟨"day", .range⟩] [⟨"slug", .s⟩, ⟨"day", .n⟩]]
    let t := changes.foldl Table.apply start
    t.globalIndexes.length ≤ UInt64.size ∧ start.localPartition? changes = some "slug" ∧
      t.raw.effective.get? "attributeDefinitions" = some (.arr [
        .obj [("attributeName", .str "date"), ("attributeType", .str "S")],
        .obj [("attributeName", .str "author"), ("attributeType", .str "S")],
        .obj [("attributeName", .str "slug"), ("attributeType", .str "S")],
        .obj [("attributeName", .str "day"), ("attributeType", .str "N")]]) ∧ t.Mirrors := by
  intro start changes t
  have hn : t.globalIndexes.length ≤ UInt64.size := by decide
  have hlast : start.localPartition? changes = some "slug" := by decide
  obtain ⟨hcurrent, -, hmirrors⟩ := resource_after_changes "Post" "posts" .custom changes hn
  refine ⟨hn, hlast, (hcurrent "attributeDefinitions" (by decide)).trans rfl, hmirrors.2 fun partition h => ?_⟩
  rw [hlast] at h
  cases h
  rfl

/-- The partition key is replaced behind a local index, which goes on being stated with the old one. -/
theorem local_index_outdated :
    let byDate : LocalIndex := ⟨"byDate", some ⟨"date", .s⟩⟩
    let changes : List TableChange := [.addLocal byDate, .replaceKey [⟨"slug", .hash⟩] [⟨"slug", .s⟩]]
    let t := changes.foldl Table.apply (Table.new "Post" "posts" .direct)
    t.raw.effective.get? "keySchema" =
        some (.arr [.obj [("attributeName", .str "slug"), ("keyType", .str "HASH")]]) ∧
      t.raw.effective.get? "localSecondaryIndexes" = some (.arr [.obj [("indexName", .str "byDate"),
        ("keySchema", .arr [.obj [("attributeName", .str "id"), ("keyType", .str "HASH")],
          .obj [("attributeName", .str "date"), ("keyType", .str "RANGE")]]),
        ("projection", .obj [("projectionType", .str "ALL")])]]) ∧ ¬ t.Mirrors := by
  intro byDate changes t
  have hstale : t.raw.effective.get? "localSecondaryIndexes" = some (.arr [statedLocal "id" byDate]) := rfl
  refine ⟨rfl, hstale, fun hmirrors => ?_⟩
  have hnow : t.stated "localSecondaryIndexes" = some (.arr [statedLocal "slug" byDate]) := rfl
  have hsame := (hmirrors "localSecondaryIndexes").symm.trans hstale
  rw [hnow, Option.some.injEq, Json.arr.injEq, List.cons.injEq] at hsame
  exact absurd (statedLocal_injective hsame.1) (by decide)

end ModelApi.Table
