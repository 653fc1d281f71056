import ModelApi.Proofs.Compile.Moves
import ModelApi.Proofs.Compile.Resolvers

/-!
# The gate behind authorization

Every resolver is added with the gate behind authorization, and with nothing else there. What follows, be it other
models, keys, indexes, statements or the last templates, keeps to other slots.

* `Registry.Keeps slot`: every resolver that is there stays, and so do its templates in the slot;
* `Action.within_keeps`: no action gets to a slot other than the one before authorization;
* `compiled_gate`: the slot behind authorization, in every API and through every pass.
-/

namespace ModelApi

open Schema (Document)

/-- The templates in a slot of the resolver of a root field. -/
def Registry.slot? (r : Registry) (slot : Slot) (key : ResolverKey) : Option (List SlotTemplate) :=
  (r.get? key).map (·.slots.get slot)

/-- Every resolver that is there stays, and so do its templates in the slot. -/
def Registry.Keeps (slot : Slot) (r r' : Registry) : Prop :=
  ∀ key templates, r.slot? slot key = some templates → r'.slot? slot key = some templates

/-- The same for the resolvers of outputs. -/
def Output.Keeps (slot : Slot) (out out' : Output) : Prop := out.registry.Keeps slot out'.registry

variable {slot : Slot}

instance : Std.Refl (Output.Keeps slot) := ⟨fun _ _ _ h => h⟩

instance : Trans (Output.Keeps slot) (Output.Keeps slot) (Output.Keeps slot) :=
  ⟨fun h h' key templates ht => h' key templates (h key templates ht)⟩

/-! ## actions and the last templates -/

theorem Registry.slot?_eq (hslot : slot ≠ .preAuth) (r : Registry) (key : ResolverKey) :
    r.slot? slot key = (r.core? key).map (·.slots.get slot) := by
  rw [slot?, core?, Option.map_map]
  exact congrArg (Option.map · _) (funext fun x => (x.get_core hslot).symm)

/-- No action gets to a slot other than the one before authorization. -/
theorem Action.within_keeps (hslot : slot ≠ .preAuth) (a : Action) : a.Within (Output.Keeps slot) := by
  intro out hfree key templates ht
  -- the resolver is there already, so the action does not create it
  obtain ⟨r, hr, -⟩ := Option.map_eq_some_iff.1 ht
  have hkey : a.key? ≠ some key := by
    intro hsome
    have hmem : key ∈ [a].filterMap Action.key? := by simp [hsome]
    exact (List.nodup_append.1 hfree).2.2 key (OrderedMap.mem_keys_of_get? _ hr) key hmem rfl
  rw [Registry.slot?_eq hslot] at ht ⊢
  rw [Output.core_perform out hkey]
  exact ht

theorem Registry.keeps_applySync (hslot : slot ≠ .preAuth) (r : Registry) (s : SyncKeys) :
    r.Keeps slot (r.applySync s) := by
  intro key templates ht
  rw [slot?_eq hslot] at ht ⊢
  rw [core?_applySync]
  exact ht

theorem Registry.keeps_attachFieldMaps (hslot : slot ≠ .init) (r : Registry) (renames : Renames) :
    r.Keeps slot (r.attachFieldMaps renames) := by
  intro key templates ht
  obtain ⟨x, hx, rfl⟩ := Option.map_eq_some_iff.1 ht
  simp [slot?, get?_attachFieldMaps, hx, Resolver.get_addRequests, hslot]

/-- Keys and indexes, however many and however they end, get to no slot other than the one before authorization. -/
theorem Project.applyKeys_keeps (hslot : slot ≠ .preAuth) (p : Project) (primaryKeys : List PrimaryKey)
    (indexes : List Index) : Moves (Output.Keeps slot) (p.applyKeys primaryKeys indexes) := by
  have hall : ∀ a : Action, a.Within (Output.Keeps slot) := Action.within_keeps hslot
  refine .bind (.forM fun k _ => ?_) fun _ => .forM fun i _ => ?_
  · exact applyPrimaryKey_moves (fun a _ => hall a) (fun a _ => hall a) fun a _ => hall a
  · exact applyIndex_moves (fun a _ => hall a) (fun a _ => hall a) fun a _ => hall a

/-! ## resolvers as they are added -/

section Document

variable {p : Project} {key : ResolverKey} {doc : Document} {config : Config} {api : Api}

theorem postAuth_operationResolver (m : Model) (o : Operation) (dataSource request : String) :
    (p.operationResolver m o dataSource request).slots.postAuth = [.ofRequest p.gate] := by
  let bare : Resolver := ⟨some dataSource, request, responseTemplate p.config.usesSync o.isMutation, m.name, {}⟩
  have hinit : (bare.addRequests .init (p.initialTemplates m o)).slots.postAuth = [] :=
    bare.get_addRequests .init .postAuth _
  calc (p.operationResolver m o dataSource request).slots.postAuth
      = (bare.addRequests .init (p.initialTemplates m o)).slots.postAuth ++ [.ofRequest p.gate] := rfl
    _ = [.ofRequest p.gate] := by rw [hinit, List.nil_append]

/-- Every resolver of a plan is added with the gate. -/
theorem postAuth_of_register {stored : String → String} {d : Declarations} {resolver : Resolver}
    (h : .register key resolver ∈ p.plan stored d) : resolver.slots.postAuth = [.ofRequest p.gate] := by
  rcases Project.register_cases h with ⟨m, -, o, -, -, rfl⟩ | ⟨i, -, field, -, -, rfl⟩ | ⟨f, -, -, rfl⟩
  · exact postAuth_operationResolver _ _ _ _
  · rfl
  · rfl

/-- **The gate behind authorization.** In every API each resolver, whatever it is for, has just one template behind
authorization: the gate of the configured mode, on the request side only. No pass changes what stands there: neither
models, keys and indexes nor statements, from whatever output they start and however they end, nor the templates that
come last. -/
theorem compiled_gate (h : compileDocument doc config = .ok api) :
    (∀ key r, api.registry.get? key = some r →
      r.slots.postAuth = [⟨some (gateTemplate config.parameters.sandboxMode), none⟩]) ∧
    (∀ p : Project, Moves (Output.Keeps .postAuth) p.addModels ∧
      (∀ primaryKeys indexes, Moves (Output.Keeps .postAuth) (p.applyKeys primaryKeys indexes)) ∧
      ∀ fields, Moves (Output.Keeps .postAuth) (p.addSqlFields fields)) ∧
    ∀ r : Registry, (∀ s, r.Keeps .postAuth (r.applySync s)) ∧
      ∀ renames, r.Keeps .postAuth (r.attachFieldMaps renames) := by
  refine ⟨fun key r hr => ?_, fun p => ⟨?_, ?_, ?_⟩, fun r => ⟨?_, ?_⟩⟩
  · obtain ⟨-, d, hd⟩ := collect_of_compileDocument h
    obtain ⟨resolver, hmem, hcore⟩ := resolver_of_compiled h hd hr
    have hadded : resolver.slots.postAuth = [.ofRequest (projectOf config doc d).gate] :=
      postAuth_of_register (p := projectOf config doc d) hmem
    calc r.slots.postAuth = r.core.slots.get .postAuth := rfl
      _ = resolver.core.slots.get .postAuth ++ [] := by rw [hcore, Resolver.get_addRequests]; rfl
      _ = resolver.slots.postAuth := List.append_nil _
      _ = _ := hadded
  · exact Project.addModels_moves fun a _ => Action.within_keeps (by decide) a
  · exact Project.applyKeys_keeps (by decide) p
  · exact Project.addSqlFields_moves fun a _ => Action.within_keeps (by decide) a
  · exact Registry.keeps_applySync (by decide) r
  · exact Registry.keeps_attachFieldMaps (by decide) r

end Document

/-- Requests with an API key may pass. -/
def sandboxConfig : Config := { blogConfig with parameters := { sandboxMode := true } }

/-- Two models, one in a table and one in a database, a query on an index and a statement, behind one gate. -/
theorem blog_gate : ∃ api, compileDocument blog sandboxConfig = .ok api ∧
    ∀ key ∈ [ResolverKey.mk "Mutation" "createPost", ⟨"Query", "listAuthors"⟩, ⟨"Query", "postsByDay"⟩,
      ⟨"Query", "countAuthors"⟩],
      ∃ r, api.registry.get? key = some r ∧ r.slots.postAuth = [⟨some (gateTemplate true), none⟩] := by
  have hfound : (compileDocument blog sandboxConfig).toOption.any (fun api =>
      [ResolverKey.mk "Mutation" "createPost", ⟨"Query", "listAuthors"⟩, ⟨"Query", "postsByDay"⟩,
        ⟨"Query", "countAuthors"⟩].all api.registry.contains) = true := by decide +kernel
  obtain ⟨api, hapi, hall⟩ := (Option.any_eq_true _ _).1 hfound
  have h : compileDocument blog sandboxConfig = .ok api := ok_of_toOption hapi
  refine ⟨api, h, fun key hkey => ?_⟩
  obtain ⟨r, hr⟩ := Option.isSome_iff_exists.1 (List.all_eq_true.1 hall key hkey)
  exact ⟨r, hr, (compiled_gate h).1 key r hr⟩

end ModelApi
