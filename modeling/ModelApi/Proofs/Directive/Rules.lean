import ModelApi.Directive.Collect
import ModelApi.Proofs.OrderedMap

/-!
# What an accepted directive tells

For each rule, everything that is known once it has accepted an occurrence: where the directive stands, what its
arguments are, and what it adds to the declarations. Later proofs use these statements and never unfold a rule.
-/

namespace ModelApi

open Schema (FieldDef)

theorem bind_eq_ok {ε α β : Type} {x : Except ε α} {f : α → Except ε β} {b : β} :
    (x >>= f) = .ok b ↔ ∃ a, x = .ok a ∧ f a = .ok b := by
  cases x <;> simp [bind, Except.bind]

theorem ok_of_toOption {ε α : Type} {x : Except ε α} {a : α} (h : x.toOption = some a) : x = .ok a := by
  cases x with
  | ok b =>
    cases h
    rfl
  | error e => cases h

/-- A check in front of a computation that succeeds has passed. -/
theorem check_eq_ok {ε α : Type} {c : Prop} [Decidable c] {e : ε} {x : Except ε α} {a : α} :
    (if c then (do (Except.error e : Except ε Unit); x) else x) = .ok a ↔ ¬ c ∧ x = .ok a := by
  by_cases h : c <;> simp [h, bind, Except.bind]

theorem keyFieldOf_eq_ok {directive : String} {o : Occurrence} {field : FieldDef} :
    keyFieldOf directive o = .ok field ↔ o.field = some field ∧ isModelDef o.owner = true := by
  unfold keyFieldOf
  cases o.field with
  | none => simp
  | some f =>
    by_cases h : isModelDef o.owner = true
    · simp [h]
    · simp [h]

theorem modelRule_eq_ok {o : Occurrence} {d d' : Declarations} :
    modelRule.declare o d = .ok d' ↔
      (o.field = none ∧ o.owner.kind.isObject = true) ∧ o.owner.name ∉ d.models.keys ∧
      ∃ a, readArguments Decode.modelArguments o.directive = .ok a ∧
        { d with models := d.models.insert o.owner.name (.ofArguments o.owner.name a) } = d' := by
  have hplace : ¬ ((o.field.isSome || !o.owner.kind.isObject) = true) ↔
      o.field = none ∧ o.owner.kind.isObject = true := by simp
  have hnew : ¬ (d.models.contains o.owner.name = true) ↔ o.owner.name ∉ d.models.keys := by
    rw [OrderedMap.contains_iff]
  unfold modelRule
  dsimp only
  rw [check_eq_ok, check_eq_ok, bind_eq_ok, hplace, hnew]
  simp only [Except.ok.injEq]

theorem primaryKeyRule_eq_ok {doc : Schema.Document} {o : Occurrence} {d d' : Declarations} :
    (primaryKeyRule doc).declare o d = .ok d' ↔
      ∃ field, (o.field = some field ∧ isModelDef o.owner = true) ∧ (∀ k ∈ d.primaryKeys, k.model ≠ o.owner.name) ∧
      ∃ sort, readArguments Decode.primaryKeyArguments o.directive = .ok sort ∧
      ∃ key, resolveKey doc o.owner.name field sort .primary = .ok key ∧
        (∀ f ∈ key.partition :: key.sort, f.type.nullable = false) ∧
        { d with primaryKeys := d.primaryKeys ++ [⟨o.owner.name, key⟩] } = d' := by
  have hfirst : ¬ ((d.primaryKeys.any fun k => k.model == o.owner.name) = true) ↔
      ∀ k ∈ d.primaryKeys, k.model ≠ o.owner.name := by simp
  have hnullable : ∀ key : Key, ¬ (((key.partition :: key.sort).any fun f => f.type.nullable) = true) ↔
      ∀ f ∈ key.partition :: key.sort, f.type.nullable = false := by
    intro key
    rw [Bool.not_eq_true, List.any_eq_false]
    simp
  unfold primaryKeyRule
  dsimp only
  simp only [bind_eq_ok, check_eq_ok, keyFieldOf_eq_ok, hfirst, hnullable, Except.ok.injEq]

/-- The name of an index: the one that is given, or one that is made from its fields. -/
def IndexArguments.nameFor (a : IndexArguments) (field : FieldDef) : String :=
  a.name.getD (defaultIndexName field.name a.sortFields)

theorem indexRule_eq_ok {doc : Schema.Document} {o : Occurrence} {d d' : Declarations} :
    (indexRule doc).declare o d = .ok d' ↔
      ∃ field, (o.field = some field ∧ isModelDef o.owner = true) ∧
      ∃ a, readArguments Decode.indexArguments o.directive = .ok a ∧
        (∀ i ∈ d.indexes, i.model = o.owner.name → a.nameFor field ≠ "" → i.name ≠ a.nameFor field) ∧
      ∃ key, resolveKey doc o.owner.name field a.sortFields (.index (a.nameFor field)) = .ok key ∧
        { d with indexes := d.indexes ++
          [⟨a.nameFor field, o.owner.name, key, primaryPartition? doc o.owner.name, a.queryField⟩] } = d' := by
  have hfresh : ∀ name : String,
      ¬ ((d.indexes.any fun i => i.model == o.owner.name && !name.isEmpty && i.name == name) = true) ↔
      ∀ i ∈ d.indexes, i.model = o.owner.name → name ≠ "" → i.name ≠ name := by
    intro name
    rw [Bool.not_eq_true, List.any_eq_false]
    simp [and_imp]
  unfold indexRule
  dsimp only
  simp only [bind_eq_ok, check_eq_ok, keyFieldOf_eq_ok, hfresh, Except.ok.injEq, IndexArguments.nameFor]

theorem sqlRule_eq_ok {config : Config} {o : Occurrence} {d d' : Declarations} :
    (sqlRule config).declare o d = .ok d' ↔
      ∃ field, o.field = some field ∧ (o.owner.name = Schema.queryType ∨ o.owner.name = Schema.mutationType) ∧
      ∃ a, readArguments Decode.sqlArguments o.directive = .ok a ∧
      ∃ statement, resolveStatement config o.owner.name field.name a = .ok statement ∧
        { d with sqlFields := d.sqlFields ++ [⟨o.owner.name, field.name, statement, a.reference⟩] } = d' := by
  have hroot : ¬ ((o.owner.name != Schema.queryType && o.owner.name != Schema.mutationType) = true) ↔
      o.owner.name = Schema.queryType ∨ o.owner.name = Schema.mutationType := by
    rw [Bool.and_eq_true, bne_iff_ne, bne_iff_ne, Decidable.not_and_iff_not_or_not, Decidable.not_not,
      Decidable.not_not]
  unfold sqlRule
  dsimp only
  cases o.field with
  | none => simp
  | some field => simp only [bind_eq_ok, check_eq_ok, hroot, Except.ok.injEq, Option.some.injEq, exists_eq_left']

theorem renameRule_eq_ok {sources : DataSources} {o : Occurrence} {d d' : Declarations} :
    (renameRule sources).declare o d = .ok d' ↔
      isModelDef o.owner = true ∧ ∃ name, readArguments Decode.nameArgument o.directive = .ok name ∧
        (RenameKind.of o.directive.name = .refersTo → sources.isSqlModel o.owner.name = true) ∧
        ((o.field = none ∧ { d with renames := d.renames.renameModel o.owner.name name } = d') ∨
          ∃ field, o.field = some field ∧ RenameKind.of o.directive.name = .refersTo ∧
            { d with renames := d.renames.renameField o.owner.name ⟨name, field.name⟩ } = d') := by
  have hmodel : ¬ ((!isModelDef o.owner) = true) ↔ isModelDef o.owner = true := by simp
  unfold renameRule
  dsimp only
  rw [check_eq_ok, bind_eq_ok, hmodel]
  cases o.field with
  | none => cases RenameKind.of o.directive.name <;> simp [check_eq_ok]
  | some field => cases RenameKind.of o.directive.name <;> simp [check_eq_ok]

end ModelApi
