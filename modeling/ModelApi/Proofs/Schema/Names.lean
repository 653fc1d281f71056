import ModelApi.Schema.Lookup
import ModelApi.Schema.Reader

/-!
# Names in schema documents

Documents as a value may hold any text for a name. What the grammar reads holds names only: letters, digits and
underscores. In particular the mark that joins the parts of a composite key never stands in the name of a field.

* `Yields P r`: whatever the reader `r` returns satisfies `P`, wherever it starts;
* `fieldNames_of_read`: the fields of the object types of a document that was read have names.
-/

namespace ModelApi.Text.Reader

variable {α β : Type} {P : α → Prop} {Q : β → Prop} {r s : Reader α}

/-- Whatever the reader returns satisfies the predicate. -/
def Yields (P : α → Prop) (r : Reader α) : Prop := ∀ c a c', r c = some (a, c') → P a

namespace Yields

theorem any (r : Reader α) : Yields (fun _ => True) r := fun _ _ _ _ => trivial

protected theorem pure {a : α} (h : P a) : Yields P (pure a : Reader α) := by
  intro c b c' hc
  cases hc
  exact h

protected theorem bind {f : α → Reader β} (hr : Yields P r) (hf : ∀ a, P a → Yields Q (f a)) : Yields Q (r >>= f) := by
  intro c b c' h
  obtain ⟨⟨a, mid⟩, hfirst, hsecond⟩ := Option.bind_eq_some_iff.1 h
  exact hf a (hr c a mid hfirst) mid b c' hsecond

/-- The result of the first reader does not matter. -/
theorem seq {f : α → Reader β} (hf : ∀ a, Yields Q (f a)) : Yields Q (r >>= f) := (any r).bind fun a _ => hf a

theorem map {f : α → β} (hr : Yields P r) (hf : ∀ a, P a → Q (f a)) : Yields Q (do return f (← r)) :=
  hr.bind fun a ha => .pure (hf a ha)

theorem either (hr : Yields P r) (hs : Yields P s) : Yields P (either r s) := by
  intro c a c' h
  unfold Reader.either at h
  cases hc : r c with
  | some result =>
    rw [hc] at h
    exact hr c a c' (hc.trans h)
  | none =>
    rw [hc] at h
    exact hs c a c' h

theorem firstOf {l : List (Reader α)} (h : ∀ r ∈ l, Yields P r) : Yields P (firstOf l) := by
  induction l with
  | nil => nofun
  | cons r l ih => exact (h r List.mem_cons_self).either (ih fun s hs => h s (List.mem_cons_of_mem _ hs))

theorem maybe (hr : Yields P r) : Yields (fun o => ∀ a ∈ o, P a) (maybe r) := by
  refine either (hr.map fun a ha b hb => ?_) (.pure nofun)
  cases hb
  exact ha

theorem many (hr : Yields P r) : Yields (fun l => ∀ a ∈ l, P a) (many r) := by
  have hfuel : ∀ fuel, Yields (fun l => ∀ a ∈ l, P a) (manyFuel r fuel) := by
    intro fuel
    induction fuel with
    | zero => exact .pure nofun
    | succ fuel ih =>
      refine either (hr.bind fun a ha => ih.map fun l hl b hb => ?_) (.pure nofun)
      rcases List.mem_cons.1 hb with rfl | hb
      · exact ha
      · exact hl b hb
  exact fun c l c' h => hfuel c.rest.length c l c' h

theorem one (p : Char → Bool) : Yields (fun d => p d = true) (one p) := by
  intro c d c' h
  unfold Reader.one at h
  split at h
  · split at h
    next hp =>
      cases h
      exact hp
    next => cases h
  · cases h

end Yields

end ModelApi.Text.Reader

namespace ModelApi.Schema

open Text (Reader)
open Text.Reader (Yields)

/-- Letters, digits and underscores. -/
def IsName (s : String) : Prop := ∀ c ∈ s.toList, Grammar.isNameChar c = true

theorem IsName.hash_notMem {s : String} (h : IsName s) : '#' ∉ s.toList := fun hmem => absurd (h '#' hmem) (by decide)

/-- The fields of an object have names; other types do not matter here. -/
def TypeKind.FieldNames (kind : TypeKind) : Prop := ∀ f ∈ kind.objectFields, IsName f.name

namespace Grammar

variable {α : Type} {P : α → Prop} {r : Reader α}

theorem yields_next (hr : Yields P r) : Yields P (next r) := .seq fun _ => hr

theorem yields_nextMaybe (hr : Yields P r) : Yields (fun o => ∀ a ∈ o, P a) (nextMaybe r) := (yields_next hr).maybe

theorem yields_nextSome (hr : Yields P r) : Yields (fun l => ∀ a ∈ l, P a) (nextSome r) := by
  refine (yields_next hr).bind fun a ha => (yields_next hr).many.map fun l hl b hb => ?_
  rcases List.mem_cons.1 hb with rfl | hb
  · exact ha
  · exact hl b hb

theorem yields_name : Yields IsName name := by
  refine (Yields.one _).bind fun c hc => (Yields.one _).many.map fun cs hcs d hd => ?_
  have hstart : isNameChar c = true := by
    simp only [isNameStart, isNameChar, Char.isAlphanum, Bool.or_eq_true] at hc ⊢
    rcases hc with hc | hc
    · exact .inl (.inl hc)
    · exact .inr hc
  rw [String.toList_ofList] at hd
  rcases List.mem_cons.1 hd with rfl | hd
  · exact hstart
  · exact hcs d hd

theorem yields_fieldDef : Yields (fun f => IsName f.name) fieldDef := by
  refine .seq fun _ => (yields_next yields_name).bind fun n hn => ?_
  -- arguments, type and directives do not matter
  exact .seq fun _ => .seq fun _ => .seq fun _ => .seq fun _ => .pure hn

theorem yields_fieldsDefinition : Yields (fun fs => ∀ f ∈ fs, IsName f.name) fieldsDefinition :=
  .seq fun _ => (yields_nextSome yields_fieldDef).bind fun _ hfs => .seq fun _ => .pure hfs

section Body

variable {kind : Option α → TypeKind} {Q : TypeKind → Prop} {whole extension : Reader (TypeKind × List Directive)}

theorem yields_typeForm {keyword : String} (hwhole : Yields (fun b => Q b.1) whole)
    (hextension : Yields (fun b => Q b.1) extension) :
    Yields (fun t => Q t.kind) (typeForm keyword whole extension) := by
  refine .seq fun pos => .either ?_ ?_
  · exact .seq fun _ => .seq fun _ => .seq fun _ => hwhole.bind fun _ hb => .pure hb
  · exact .seq fun _ => .seq fun _ => .seq fun _ => hextension.bind fun _ hb => .pure hb

theorem yields_wholeBody (hr : Yields P r) (hkind : ∀ o, (∀ a ∈ o, P a) → Q (kind o)) :
    Yields (fun b => Q b.1) (wholeBody r kind) :=
  .seq fun _ => (yields_nextMaybe hr).bind fun o ho => .pure (hkind o ho)

theorem yields_extensionBody (hr : Yields P r) (hkind : ∀ o, (∀ a ∈ o, P a) → Q (kind o)) :
    Yields (fun b => Q b.1) (extensionBody r kind) := by
  refine .either ?_ ?_
  · refine .seq fun _ => (yields_next hr).bind fun b hb => .pure (hkind (some b) fun a ha => ?_)
    cases ha
    exact hb
  · exact .seq fun _ => .pure (hkind none nofun)

/-- A type of another kind has no fields that matter. -/
theorem yields_otherType {keyword : String} {body : Reader α} (hkind : ∀ o, (kind o).objectFields = []) :
    Yields (fun t => t.kind.FieldNames) (typeForm keyword (wholeBody body kind) (extensionBody body kind)) := by
  have hnone : ∀ o, (∀ a ∈ o, True) → (kind o).FieldNames := by
    intro o _ f hf
    rw [hkind] at hf
    cases hf
  exact yields_typeForm (yields_wholeBody (.any _) hnone) (yields_extensionBody (.any _) hnone)

end Body

theorem yields_objectType : Yields (fun t => t.kind.FieldNames) objectType := by
  have hkind : ∀ o : Option (List FieldDef), (∀ fs ∈ o, ∀ f ∈ fs, IsName f.name) →
      (TypeKind.object (o.getD [])).FieldNames := by
    intro o ho f hf
    cases o with
    | none => cases hf
    | some fs => exact ho fs rfl f hf
  refine yields_typeForm (.seq fun _ => yields_wholeBody yields_fieldsDefinition hkind) (.either ?_ ?_)
  · exact .seq fun _ => yields_extensionBody yields_fieldsDefinition hkind
  · exact .seq fun _ => .pure (hkind none nofun)

theorem yields_typeDef : Yields (fun t => t.kind.FieldNames) typeDef := by
  refine .firstOf fun r hr => ?_
  simp only [List.mem_cons, List.not_mem_nil, or_false] at hr
  rcases hr with rfl | rfl | rfl | rfl | rfl | rfl
  · exact yields_typeForm (.seq fun _ => .pure nofun) (.seq fun _ => .pure nofun)
  · exact yields_objectType
  · have hkind : ∀ o : Option (List FieldDef), (∀ fs ∈ o, True) → (TypeKind.interface (o.getD [])).FieldNames :=
      fun o _ => nofun
    exact yields_typeForm (.seq fun _ => yields_wholeBody (.any _) hkind)
      (.seq fun _ => yields_extensionBody (.any _) hkind)
  · exact yields_otherType fun _ => rfl
  · exact yields_otherType fun _ => rfl
  · exact yields_otherType fun _ => rfl

/-- Every type of a document. -/
theorem yields_document : Yields (fun doc : Document => ∀ t ∈ doc.types, t.kind.FieldNames) document := by
  have hdefinition : Yields (fun x => ∀ t, x = .type t → t.kind.FieldNames) definition := by
    refine .firstOf fun r hr => ?_
    simp only [List.mem_cons, List.not_mem_nil, or_false] at hr
    rcases hr with rfl | rfl | rfl
    · exact .seq fun _ => .pure nofun
    · refine yields_typeDef.map fun t ht u hu => ?_
      cases hu
      exact ht
    · exact .seq fun _ => .pure nofun
  refine (yields_nextSome hdefinition).bind fun ds hds => .seq fun _ => .pure fun t ht => ?_
  obtain ⟨x, hx, hxt⟩ := List.mem_filterMap.1 ht
  refine hds x hx t ?_
  cases x with
  | type u =>
    cases hxt
    rfl
  | schema u => cases hxt
  | directive u => cases hxt

end Grammar

/-- The fields of the object types of a document that was read have names. -/
theorem fieldNames_of_read {text : String} {doc : Document} (h : Document.read text = .ok doc) {type : String}
    {f : FieldDef} (hf : f ∈ doc.objectFields type) : IsName f.name := by
  have hwhole : Reader.whole Grammar.document text = some doc := by
    unfold Document.read at h
    cases hw : Reader.whole Grammar.document text with
    | none =>
      rw [hw] at h
      cases h
    | some other =>
      rw [hw] at h
      cases he : other.definitions.findSome? (·.error?) with
      | some e =>
        simp only [he] at h
        cases h
      | none =>
        simp only [he] at h
        cases h
        rfl
  have hnames : ∀ t ∈ doc.types, t.kind.FieldNames := by
    unfold Reader.whole at hwhole
    split at hwhole
    next hread =>
      cases hwhole
      exact Grammar.yields_document _ _ _ hread
    next => cases hwhole
  obtain ⟨t, ht, hmem⟩ := List.mem_flatMap.1 hf
  exact hnames t (List.mem_filter.1 ht).1 f hmem

end ModelApi.Schema
