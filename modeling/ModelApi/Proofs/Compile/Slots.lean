import ModelApi.Compile.Api
import ModelApi.Proofs.Compile.Actions
import ModelApi.Proofs.Resolver.Texts

/-!
# What a plan puts before authorization

Templates get before the authorization slots of a resolver in two ways: as lines that actions add on the spot, and as a
choice among the keys that actions have registered, made at the very end. For each root field a plan is read as the
lines and as the registrations it has for that field.

* `Resolver.Gains`: one more template, given by its text, and no other change;
* `preAuth_after`, `syncKeys_after`: a plan adds its lines, and its registrations, in order;
* `preAuth_finish`: the end adds the choice among the registered keys, and nothing else;
* `preAuth_of_registered`: the slot of a resolver that a plan adds.
-/

namespace ModelApi

open Text (joinWith)

/-- The templates before authorization of the resolver of a root field. -/
def Registry.preAuth? (r : Registry) (key : ResolverKey) : Option (List SlotTemplate) :=
  (r.get? key).map (·.slots.preAuth)

namespace Action

/-- The lines that an action adds to the resolver of a root field. -/
def linesFor? (key : ResolverKey) : Action → Option (List String)
  | .addLines other lines => if other = key then some lines else none
  | _ => none

/-- The key that an action registers with the resolver of a root field. -/
def entryFor? (key : ResolverKey) : Action → Option SyncEntry
  | .registerSync other name k => if other = key then some ⟨name, k⟩ else none
  | _ => none

/-- Whether an action neither adds lines nor registers a key. -/
def plain : Action → Bool
  | .addLines _ _ | .registerSync _ _ _ => false
  | _ => true

theorem for?_of_plain (key : ResolverKey) {a : Action} (h : a.plain = true) :
    a.linesFor? key = none ∧ a.entryFor? key = none := by
  cases a with
  | addLines other lines => cases h
  | registerSync other name k => cases h
  | _ => exact ⟨rfl, rfl⟩

theorem lines_of_plain {plan : List Action} (h : ∀ a ∈ plan, a.plain = true) (key : ResolverKey) :
    plan.filterMap (linesFor? key) = [] :=
  List.filterMap_eq_nil_iff.2 fun a ha => (for?_of_plain key (h a ha)).1

theorem entries_of_plain {plan : List Action} (h : ∀ a ∈ plan, a.plain = true) (key : ResolverKey) :
    plan.filterMap (entryFor? key) = [] :=
  List.filterMap_eq_nil_iff.2 fun a ha => (for?_of_plain key (h a ha)).2

end Action

/-- Lines as a template outside sync queries. -/
def SlotTemplate.ofLines (lines : List String) : SlotTemplate := ⟨some (linesText lines), none⟩

/-- The choice among registered keys as a template. -/
def SlotTemplate.ofEntries (entries : List SyncEntry) : SlotTemplate :=
  ⟨some (syncText (joinWith "\n" (entries.map (·.registrationText)))), none⟩

variable {key : ResolverKey}

/-! ## changing one resolver -/

/-- One more template before authorization, on the request side, and no other change. -/
structure Resolver.Gains (r : Resolver) (text : String) (r' : Resolver) : Prop where
  preAuth : r'.slots.preAuth = r.slots.preAuth ++ [⟨some text, none⟩]
  slots : ∀ slot, slot ≠ .preAuth → r'.slots.get slot = r.slots.get slot
  rest : r' = { r with slots := r'.slots }

theorem Resolver.gains_addRequest (r : Resolver) (text : String) : r.Gains text (r.addRequest .preAuth text) := by
  refine ⟨rfl, fun slot hslot => ?_, rfl⟩
  exact (Slots.get_add _ _ _ _).trans (if_neg hslot)

theorem Resolver.gains_addLines (r : Resolver) (lines : List String) :
    r.Gains (linesText lines) (r.addLines lines false) := by
  rw [← linesTemplate_eq]
  exact r.gains_addRequest _

theorem Resolver.gains_addSyncChoice (r : Resolver) (entries : List SyncEntry) :
    r.Gains (syncText (joinWith "\n" (entries.map (·.registrationText))))
      (r.addSyncChoice (registrationsText entries)) := by
  rw [← syncTemplate_eq]
  exact r.gains_addRequest _

theorem Registry.preAuth?_update (r : Registry) (other : ResolverKey) {f : Resolver → Resolver}
    {added : List SlotTemplate} (hf : ∀ x, (f x).slots.preAuth = x.slots.preAuth ++ added) :
    Registry.preAuth? (r.update other f) key = (r.preAuth? key).map (· ++ if other = key then added else []) := by
  unfold preAuth?
  rw [OrderedMap.get?_update]
  by_cases h : key = other
  · subst h
    simp [hf, Function.comp_def]
  · simp [h, Ne.symm h, Function.comp_def]

/-! ## plans -/

namespace Output

/-- An action adds its lines to the slot of every resolver that it does not create. -/
theorem preAuth_perform (out : Output) {a : Action} (ha : a.key? ≠ some key) :
    Registry.preAuth? (out.perform a).registry key =
      (Registry.preAuth? out.registry key).map (· ++ ((a.linesFor? key).map SlotTemplate.ofLines).toList) := by
  cases a with
  | register other resolver =>
    have hne : key ≠ other := fun h => ha (congrArg some h.symm)
    simp [perform, mapRegistry, Registry.preAuth?, hne, Action.linesFor?, Function.comp_def]
  | addLines other lines =>
    refine (Registry.preAuth?_update _ other fun x => (x.gains_addLines lines).preAuth).trans ?_
    by_cases h : other = key
    · simp [Action.linesFor?, h, SlotTemplate.ofLines]
    · simp [Action.linesFor?, h]
  | ensureSql dbType =>
    obtain ⟨sources, heq, -⟩ := ensureSqlDataSource_eq dbType out
    simp [perform, heq, Action.linesFor?]
  | _ => simp [perform, Action.linesFor?]

/-- A plan adds all its lines for a resolver, in order. -/
theorem preAuth_after {plan : List Action} (h : key ∉ plan.filterMap Action.key?) (out : Output) :
    Registry.preAuth? (out.after plan).registry key =
      (Registry.preAuth? out.registry key).map
        (· ++ (plan.filterMap (Action.linesFor? key)).map SlotTemplate.ofLines) := by
  induction plan generalizing out with
  | nil => simp
  | cons a plan ih =>
    have ha : a.key? ≠ some key := fun hkey => h (List.mem_filterMap.2 ⟨a, List.mem_cons_self, hkey⟩)
    have hrest : key ∉ plan.filterMap Action.key? := by
      intro hmem
      obtain ⟨b, hb, hkey⟩ := List.mem_filterMap.1 hmem
      exact h (List.mem_filterMap.2 ⟨b, List.mem_cons_of_mem _ hb, hkey⟩)
    rw [after_cons, ih hrest, preAuth_perform out ha, Option.map_map, List.filterMap_cons]
    cases a.linesFor? key <;> simp [Function.comp_def]

theorem syncKeys_perform (out : Output) (a : Action) :
    (out.perform a).syncKeys.get? key =
      (a.entryFor? key).toList.foldl (fun entries e => some (entries.getD [] ++ [e])) (out.syncKeys.get? key) := by
  cases a with
  | registerSync other name k =>
    by_cases h : other = key
    · simp [perform, SyncKeys.register, Action.entryFor?, h]
    · simp [perform, SyncKeys.register, Action.entryFor?, h, Ne.symm h]
  | ensureSql dbType =>
    obtain ⟨sources, heq, -⟩ := ensureSqlDataSource_eq dbType out
    simp [perform, heq, Action.entryFor?]
  | _ => rfl

/-- A plan registers all its keys with a resolver, in order. -/
theorem syncKeys_after (plan : List Action) (out : Output) :
    (out.after plan).syncKeys.get? key =
      (plan.filterMap (Action.entryFor? key)).foldl (fun entries e => some (entries.getD [] ++ [e]))
        (out.syncKeys.get? key) := by
  induction plan generalizing out with
  | nil => rfl
  | cons a plan ih =>
    rw [after_cons, ih, syncKeys_perform, List.filterMap_cons]
    cases a.entryFor? key <;> rfl

end Output

/-- Registrations that start from nothing: a resolver without any is not mentioned. -/
theorem foldl_registrations (entries : List SyncEntry) :
    entries.foldl (fun entries e => some (entries.getD [] ++ [e])) none =
      if entries = [] then none else some entries := by
  have hfrom : ∀ (rest before : List SyncEntry),
      rest.foldl (fun entries e => some (entries.getD [] ++ [e])) (some before) = some (before ++ rest) := by
    intro rest
    induction rest with
    | nil => simp
    | cons e rest ih =>
      intro before
      rw [List.foldl_cons, Option.getD_some, ih, List.append_assoc]
      rfl
  cases entries with
  | nil => rfl
  | cons e rest => exact hfrom rest [e]

/-! ## the last templates -/

/-- The choice is made by every resolver that keys were registered with, and by no other. -/
theorem Registry.get?_applySync (r : Registry) (s : SyncKeys) :
    (r.applySync s).get? key =
      (r.get? key).map fun x =>
        ((s.get? key).map fun entries => x.addSyncChoice (registrationsText entries)).getD x := by
  -- keys are distinct, so one entry at most is for the root field
  have hfold : ∀ (l : List (ResolverKey × List SyncEntry)) (r : Registry), (l.map Prod.fst).Nodup →
      (l.foldl (fun r e => r.update e.1 (·.addSyncChoice (registrationsText e.2))) r).get? key =
        (r.get? key).map fun x =>
          ((OrderedMap.find key l).map fun entries => x.addSyncChoice (registrationsText entries)).getD x := by
    intro l
    induction l with
    | nil => simp [OrderedMap.find]
    | cons e l ih =>
      intro r hn
      rw [List.map_cons, List.nodup_cons] at hn
      obtain ⟨other, entries⟩ := e
      rw [List.foldl_cons, ih _ hn.2, OrderedMap.get?_update]
      by_cases h : other = key
      · subst h
        have hnone : OrderedMap.find other l = none := (OrderedMap.find_eq_none_iff other l).2 hn.1
        simp [OrderedMap.find, hnone, Function.comp_def]
      · simp [OrderedMap.find, h, Ne.symm h]
  exact hfold s.entries r s.nodup

theorem Registry.preAuth?_applySync (r : Registry) (s : SyncKeys) :
    Registry.preAuth? (r.applySync s) key =
      (r.preAuth? key).map (· ++ ((s.get? key).map SlotTemplate.ofEntries).toList) := by
  rw [preAuth?, get?_applySync, preAuth?, Option.map_map, Option.map_map]
  refine congrArg (Option.map · _) (funext fun x => ?_)
  cases s.get? key with
  | none => exact (List.append_nil _).symm
  | some entries => exact (x.gains_addSyncChoice entries).preAuth

/-- Renames of fields go to another slot. -/
theorem Registry.preAuth?_attachFieldMap (r : Registry) (m : FieldMap) :
    Registry.preAuth? (r.attachFieldMap m) key = r.preAuth? key := by
  unfold attachFieldMap
  split
  · rfl
  · induction m.references generalizing r with
    | nil => rfl
    | cons reference references ih =>
      have hstep : Registry.preAuth? (r.update reference.key (·.addRequest .init (fieldMappingTemplate m))) key =
          (r.preAuth? key).map (· ++ if reference.key = key then [] else []) :=
        Registry.preAuth?_update r _ fun x => (List.append_nil _).symm
      rw [List.foldl_cons, ih, hstep]
      simp

theorem Registry.preAuth?_attachFieldMaps (r : Registry) (renames : Renames) :
    Registry.preAuth? (r.attachFieldMaps renames) key = r.preAuth? key := by
  unfold attachFieldMaps
  induction renames.fieldMaps.values generalizing r with
  | nil => rfl
  | cons m maps ih => rw [List.foldl_cons, ih, preAuth?_attachFieldMap]

/-- The end adds one template to the resolvers that keys were registered with. -/
theorem Output.preAuth_finish (out : Output) :
    Registry.preAuth? out.finish.registry key =
      (Registry.preAuth? out.registry key).map
        (· ++ ((out.syncKeys.get? key).map SlotTemplate.ofEntries).toList) := by
  rw [finish, Registry.preAuth?_attachFieldMaps, Registry.preAuth?_applySync]

/-! ## resolvers of a plan -/

/-- The choice among keys, if there are any. -/
def SlotTemplate.choice (entries : List SyncEntry) : List SlotTemplate :=
  if entries = [] then [] else [.ofEntries entries]

/-- The slot of a resolver that a plan adds, when its lines all come in a later part of the plan. -/
theorem Output.preAuth_of_registered {out : Output} {first second : List Action} {resolver : Resolver}
    (hmem : .register key resolver ∈ first) (hfree : out.Free (first ++ second))
    (hlines : first.filterMap (Action.linesFor? key) = []) (hsync : out.syncKeys = .empty) :
    Registry.preAuth? (out.after (first ++ second)).finish.registry key =
      some (resolver.slots.preAuth ++ (second.filterMap (Action.linesFor? key)).map SlotTemplate.ofLines ++
        SlotTemplate.choice ((first ++ second).filterMap (Action.entryFor? key))) := by
  obtain ⟨before, rest, rfl⟩ := List.append_of_mem hmem
  -- what follows does not create the resolver again
  have hlater : key ∉ (rest ++ second).filterMap Action.key? := by
    rw [List.append_assoc] at hfree
    exact hfree.notMem_rest
  have hrest : rest.filterMap (Action.linesFor? key) = [] := by
    rw [List.filterMap_append, List.append_eq_nil_iff, List.filterMap_cons] at hlines
    exact hlines.2
  have hcreated : Registry.preAuth? ((out.after before).perform (.register key resolver)).registry key =
      some resolver.slots.preAuth := by
    simp [perform, mapRegistry, Registry.preAuth?]
  have hslot : Registry.preAuth? (out.after (before ++ .register key resolver :: rest ++ second)).registry key =
      some (resolver.slots.preAuth ++ (second.filterMap (Action.linesFor? key)).map SlotTemplate.ofLines) := by
    rw [List.append_assoc, List.cons_append, after_append, after_cons, preAuth_after hlater, hcreated,
      List.filterMap_append, hrest]
    rfl
  have hchoice : (((out.after (before ++ .register key resolver :: rest ++ second)).syncKeys.get? key).map
      SlotTemplate.ofEntries).toList =
      SlotTemplate.choice ((before ++ .register key resolver :: rest ++ second).filterMap (Action.entryFor? key)) := by
    rw [syncKeys_after, hsync, OrderedMap.get?_empty, foldl_registrations, SlotTemplate.choice]
    split <;> rfl
  rw [preAuth_finish, hslot, hchoice]
  rfl

end ModelApi
