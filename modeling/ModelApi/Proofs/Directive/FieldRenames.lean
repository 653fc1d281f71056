import ModelApi.Proofs.Directive.Run

/-!
# Renamed fields

The field map of a type grows with every `@refersTo` on one of its fields; a later rename of a field takes the place of
an earlier one.

* `Schema.Document.fieldRenames`: the renames of the fields of a type, in the order of the document;
* `FieldMap.Records`: the field map has the last rename of every field, and nothing else;
* `step_fieldMaps`, `collect_fieldMaps`: the field maps along a run, and at its end;
* `current_mem_fieldRenames`: the fields that are renamed are those that carry `@refersTo`.
-/

namespace ModelApi

open Schema (Document)

/-- The rename that `@refersTo` on a field gives. -/
def Occurrence.fieldRename? (o : Occurrence) : Option FieldRename :=
  if o.directive.name = RenameKind.refersTo.directive then
    o.field.bind fun f => (readArguments Decode.nameArgument o.directive).toOption.map (⟨·, f.name⟩)
  else none

/-- The renames of the fields of a type, in the order of the document. -/
def Schema.Document.fieldRenames (doc : Document) (type : String) : List FieldRename :=
  (doc.occurrences.filter (·.owner.name == type)).filterMap (·.fieldRename?)

/-! ## the last rename counts -/

/-- The field map has the last of the renames of every field, and nothing else. -/
structure FieldMap.Records (m : FieldMap) (renames : List FieldRename) : Prop where
  distinct : (m.fields.map (·.current)).Nodup
  mem : ∀ r, r ∈ m.fields ↔ (renames.filter (·.current == r.current)).getLast? = some r

namespace FieldMap

theorem Records.rename {m : FieldMap} {renames : List FieldRename} (h : m.Records renames) (r : FieldRename) :
    (m.rename r).Records (renames ++ [r]) := by
  have hkept : ∀ other ∈ m.fields.filter (·.current != r.current), other.current ≠ r.current := by
    intro other hother
    simpa using (List.mem_filter.1 hother).2
  refine ⟨?_, fun x => ?_⟩
  · rw [FieldMap.rename, List.map_append]
    refine List.nodup_append.2 ⟨(List.filter_sublist.map _).nodup h.distinct, List.nodup_singleton _, ?_⟩
    intro name hname other hother
    obtain ⟨y, hy, rfl⟩ := List.mem_map.1 hname
    rw [List.mem_singleton.1 hother]
    exact hkept y hy
  · rw [FieldMap.rename, List.mem_append, List.mem_singleton, List.mem_filter, List.filter_append, h.mem]
    by_cases hx : r.current = x.current
    · -- the new rename is the last one of its field
      simp [hx, eq_comm]
    · have hne : x ≠ r := by
        rintro rfl
        exact hx rfl
      simp [hx, hne, Ne.symm hx]

theorem Records.foldl {m : FieldMap} {renames : List FieldRename} (h : m.Records renames) (rest : List FieldRename) :
    (rest.foldl FieldMap.rename m).Records (renames ++ rest) := by
  induction rest generalizing m renames with
  | nil => simpa using h
  | cons r rest ih =>
    have hrest := ih (h.rename r)
    rwa [List.append_assoc] at hrest

theorem records_foldl_rename (renames : List FieldRename) : (renames.foldl FieldMap.rename {}).Records renames := by
  have hempty : ({} : FieldMap).Records [] := ⟨List.nodup_nil, by simp⟩
  simpa using hempty.foldl renames

theorem references_foldl_rename (renames : List FieldRename) (m : FieldMap) :
    (renames.foldl FieldMap.rename m).references = m.references := by
  induction renames generalizing m with
  | nil => rfl
  | cons r renames ih => exact ih (m.rename r)

/-- A field is renamed when some rename is for it. -/
theorem Records.current_mem {m : FieldMap} {renames : List FieldRename} (h : m.Records renames) (name : String) :
    name ∈ m.fields.map (·.current) ↔ ∃ r ∈ renames, r.current = name := by
  constructor
  · intro hname
    obtain ⟨r, hr, rfl⟩ := List.mem_map.1 hname
    have hlast := List.mem_of_getLast? ((h.mem r).1 hr)
    exact ⟨r, (List.mem_filter.1 hlast).1, rfl⟩
  · rintro ⟨r, hr, rfl⟩
    have hsome : (renames.filter (·.current == r.current)).getLast?.isSome = true := by
      rw [List.getLast?_isSome]
      exact List.ne_nil_of_mem (List.mem_filter.2 ⟨hr, by simp⟩)
    obtain ⟨last, hlast⟩ := Option.isSome_iff_exists.1 hsome
    have hcurrent : last.current = r.current := by simpa using (List.mem_filter.1 (List.mem_of_getLast? hlast)).2
    refine List.mem_map.2 ⟨last, (h.mem last).2 ?_, hcurrent⟩
    rw [hcurrent]
    exact hlast

end FieldMap

/-- Renames that start from nothing: a type without any has no field map. -/
theorem foldl_renames (renames : List FieldRename) :
    renames.foldl (fun m r => some ((m.getD {}).rename r)) (none : Option FieldMap) =
      if renames = [] then none else some (renames.foldl FieldMap.rename {}) := by
  have hfrom : ∀ (rest : List FieldRename) (m : FieldMap),
      rest.foldl (fun m r => some ((m.getD {}).rename r)) (some m) = some (rest.foldl FieldMap.rename m) := by
    intro rest
    induction rest with
    | nil => exact fun m => rfl
    | cons r rest ih => exact fun m => ih (m.rename r)
  cases renames with
  | nil => rfl
  | cons r rest => exact hfrom rest _

/-! ## field maps along a run -/

section Run

variable {doc : Document} {config : Config} {sources : DataSources} {o : Occurrence} {d d' : Declarations}

theorem fieldRename?_of_other (h : o.directive.name ≠ RenameKind.refersTo.directive) : o.fieldRename? = none := if_neg h

/-- A step makes the rename of its occurrence, if that is one of a field. -/
theorem step_fieldMaps (h : takeStep (rules doc config sources) o d = .ok d') (type : String) :
    d'.renames.fieldMaps.get? type =
      (if o.owner.name = type then o.fieldRename?.toList else []).foldl (fun m r => some ((m.getD {}).rename r))
        (d.renames.fieldMaps.get? type) := by
  rcases step_cases h with ⟨hname, h⟩ | ⟨hname, h⟩ | ⟨hname, h⟩ | ⟨hname, h⟩ | ⟨hname, h⟩ | ⟨hnone, rfl⟩
  · obtain ⟨-, -, a, -, rfl⟩ := modelRule_eq_ok.1 h
    simp [fieldRename?_of_other (show o.directive.name ≠ _ by rw [hname]; decide)]
  · obtain ⟨field, -, -, sort, -, key, -, -, rfl⟩ := primaryKeyRule_eq_ok.1 h
    simp [fieldRename?_of_other (show o.directive.name ≠ _ by rw [hname]; decide)]
  · obtain ⟨field, -, a, -, -, key, -, rfl⟩ := indexRule_eq_ok.1 h
    simp [fieldRename?_of_other (show o.directive.name ≠ _ by rw [hname]; decide)]
  · obtain ⟨field, -, -, a, -, statement, -, rfl⟩ := sqlRule_eq_ok.1 h
    simp [fieldRename?_of_other (show o.directive.name ≠ _ by rw [hname]; decide)]
  · obtain ⟨-, name, hargs, -, ⟨hfield, rfl⟩ | ⟨field, hfield, hkind, rfl⟩⟩ := renameRule_eq_ok.1 h
    · have hmodel : o.fieldRename? = none := by simp [Occurrence.fieldRename?, hfield]
      simp [hmodel, Renames.renameModel]
    · have hrefers : o.directive.name = RenameKind.refersTo.directive := by
        rcases List.mem_cons.1 hname with hmaps | hrest
        · rw [hmaps] at hkind
          cases hkind
        · exact List.mem_singleton.1 hrest
      have hrename : o.fieldRename? = some ⟨name, field.name⟩ := by
        simp [Occurrence.fieldRename?, hrefers, hfield, hargs, Except.toOption]
      by_cases htype : o.owner.name = type
      · simp [hrename, htype, Renames.renameField, Renames.updateFieldMap]
      · simp [htype, Ne.symm htype, Renames.renameField, Renames.updateFieldMap]
  · have hother : o.directive.name ≠ RenameKind.refersTo.directive := by
      intro heq
      exact hnone (renameRule sources) (by simp [rules]) (by simp [renameRule, heq])
    simp [fieldRename?_of_other hother]

/-- The field map of a type comes from all its renames; a type without any has none. -/
theorem collect_fieldMaps (h : collect doc config sources = .ok d) (type : String) :
    d.renames.fieldMaps.get? type =
      if doc.fieldRenames type = [] then none else some ((doc.fieldRenames type).foldl FieldMap.rename {}) := by
  have hrun : ∀ (l : List Occurrence) (s : Declarations),
      l.foldlM (fun d o => takeStep (rules doc config sources) o d) s = .ok d →
      d.renames.fieldMaps.get? type =
        ((l.filter (·.owner.name == type)).filterMap (·.fieldRename?)).foldl
          (fun m r => some ((m.getD {}).rename r)) (s.renames.fieldMaps.get? type) := by
    intro l
    induction l with
    | nil =>
      intro s hs
      cases hs
      rfl
    | cons o l ih =>
      intro s hs
      rw [List.foldlM_cons, bind_eq_ok] at hs
      obtain ⟨t, ht, hs⟩ := hs
      rw [ih t hs, step_fieldMaps ht]
      by_cases htype : o.owner.name = type
      · cases hrename : o.fieldRename? <;> simp [htype, hrename]
      · simp [htype]
  rw [← foldl_renames]
  exact hrun doc.occurrences {} (collect_eq_ok_iff.1 h)

/-- Every occurrence was accepted at some point of the run. -/
theorem accepted_of_collect (h : collect doc config sources = .ok d) (ho : o ∈ doc.occurrences) :
    ∃ before after, takeStep (rules doc config sources) o before = .ok after := by
  obtain ⟨before, after, hstep, -⟩ := foldlM_passes (R := fun _ _ => True) (fun _ => trivial) (fun _ _ => trivial)
    (fun _ _ _ _ _ => trivial) (collect_eq_ok_iff.1 h) ho
  exact ⟨before, after, hstep⟩

/-- The fields of a type that are renamed are those that carry `@refersTo`. -/
theorem current_mem_fieldRenames (h : collect doc config sources = .ok d) {type name : String} :
    (∃ r ∈ doc.fieldRenames type, r.current = name) ↔
      ∃ f ∈ doc.objectFields type, f.name = name ∧ f.hasDirective RenameKind.refersTo.directive = true := by
  constructor
  · rintro ⟨r, hr, rfl⟩
    obtain ⟨o, ho, hrename⟩ := List.mem_filterMap.1 hr
    obtain ⟨hmem, htype⟩ := List.mem_filter.1 ho
    rw [beq_iff_eq] at htype
    subst htype
    unfold Occurrence.fieldRename? at hrename
    split at hrename
    next hrefers =>
      obtain ⟨f, hfield, hname⟩ := Option.bind_eq_some_iff.1 hrename
      obtain ⟨name, -, rfl⟩ := Option.map_eq_some_iff.1 hname
      obtain ⟨hf, hdir⟩ := mem_objectFields_of_occurrence hmem hfield
      exact ⟨f, hf, rfl, List.any_eq_true.2 ⟨o.directive, hdir, by simpa using hrefers⟩⟩
    next => cases hrename
  · rintro ⟨f, hf, rfl, hdirective⟩
    obtain ⟨t, ht, hfields⟩ := List.mem_flatMap.1 hf
    obtain ⟨hdef, htype⟩ := List.mem_filter.1 ht
    obtain ⟨dir, hdir, hname⟩ := List.any_eq_true.1 hdirective
    rw [beq_iff_eq] at htype hname
    -- the directive was accepted, so its argument can be read
    let o : Occurrence := ⟨dir, t, some f⟩
    have ho : o ∈ doc.occurrences := List.mem_flatMap.2
      ⟨t, hdef, List.mem_append_right _ (List.mem_flatMap.2 ⟨f, hfields, List.mem_map.2 ⟨dir, hdir, rfl⟩⟩)⟩
    obtain ⟨before, after, hstep⟩ := accepted_of_collect h ho
    have hhandled : o.directive.name ∈ (renameRule sources).directives := by simp [o, renameRule, hname]
    rw [takeStep_of_mem rules_apart (by simp [rules]) hhandled] at hstep
    obtain ⟨-, name, hargs, -⟩ := renameRule_eq_ok.1 hstep
    refine ⟨⟨name, f.name⟩, List.mem_filterMap.2 ⟨o, List.mem_filter.2 ⟨ho, by simpa [o] using htype⟩, ?_⟩, rfl⟩
    simp [Occurrence.fieldRename?, o, hname, hargs, Except.toOption]

end Run

end ModelApi
