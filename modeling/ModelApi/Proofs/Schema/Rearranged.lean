import ModelApi.Key.Basic

/-!
# Documents in another order

A document may be rearranged: its type definitions come in another order, but definitions and extensions of one type
stay in theirs. Positions change with that, so documents are compared without them. What is looked up under a name comes
from the definitions of that name, and is the same in both documents.

* `TypeDef.unplaced`: a definition without positions;
* `Document.Rearranged`: the relation, which is symmetric;
* `Rearranged.isComposite`, `Rearranged.field?`, `Rearranged.attributeType`: look-ups agree.
-/

namespace ModelApi.Schema

/-! ## without positions -/

def Directive.unplaced (d : Directive) : Directive := { d with pos := default }

def InputValue.unplaced (v : InputValue) : InputValue := { v with directives := v.directives.map (·.unplaced) }

def FieldDef.unplaced (f : FieldDef) : FieldDef :=
  { f with arguments := f.arguments.map (·.unplaced), directives := f.directives.map (·.unplaced) }

def EnumValue.unplaced (v : EnumValue) : EnumValue := { v with directives := v.directives.map (·.unplaced) }

def TypeKind.unplaced : TypeKind → TypeKind
  | .scalar => .scalar
  | .object fields => .object (fields.map (·.unplaced))
  | .interface fields => .interface (fields.map (·.unplaced))
  | .union members => .union members
  | .enum values => .enum (values.map (·.unplaced))
  | .input fields => .input (fields.map (·.unplaced))

/-- A definition without positions. -/
def TypeDef.unplaced (t : TypeDef) : TypeDef :=
  { t with pos := default, kind := t.kind.unplaced, directives := t.directives.map (·.unplaced) }

namespace TypeKind

@[simp] theorem isScalar_unplaced (k : TypeKind) : k.unplaced.isScalar = k.isScalar := by cases k <;> rfl

@[simp] theorem isObject_unplaced (k : TypeKind) : k.unplaced.isObject = k.isObject := by cases k <;> rfl

@[simp] theorem isEnum_unplaced (k : TypeKind) : k.unplaced.isEnum = k.isEnum := by cases k <;> rfl

@[simp] theorem objectFields_unplaced (k : TypeKind) : k.unplaced.objectFields = k.objectFields.map (·.unplaced) := by
  cases k <;> rfl

end TypeKind

@[simp] theorem FieldDef.hasDirective_unplaced (f : FieldDef) (name : String) :
    f.unplaced.hasDirective name = f.hasDirective name := by
  simp [hasDirective, unplaced, Directive.unplaced, Function.comp_def]

@[simp] theorem TypeDef.hasDirective_unplaced (t : TypeDef) (name : String) :
    t.unplaced.hasDirective name = t.hasDirective name := by
  simp [hasDirective, unplaced, Directive.unplaced, Function.comp_def]

@[simp] theorem TypeDef.isModelObject_unplaced (t : TypeDef) : t.unplaced.isModelObject = t.isModelObject := by
  rw [isModelObject, isModelObject, hasDirective_unplaced]
  exact congrArg (· && _) t.kind.isObject_unplaced

/-! ## the same definitions under every name -/

/-- The type definitions of one document are those of the other in another order, but those of one name come in the same
order in both. Positions do not matter. -/
structure Document.Rearranged (doc doc' : Document) : Prop where
  perm : (doc.types.map (·.unplaced)).Perm (doc'.types.map (·.unplaced))
  order : ∀ name, (doc.definitionsOf name).map (·.unplaced) = (doc'.definitionsOf name).map (·.unplaced)

namespace Document

theorem typeNamed?_unplaced (doc : Document) (name : String) :
    (doc.typeNamed? name).map (·.unplaced) =
      (((doc.definitionsOf name).map (·.unplaced)).find? (!·.isExtension)).or
        ((doc.definitionsOf name).map (·.unplaced)).head? := by
  have hor : doc.typeNamed? name =
      ((doc.definitionsOf name).find? (!·.isExtension)).or (doc.definitionsOf name).head? := by
    unfold typeNamed?
    cases (doc.definitionsOf name).find? (!·.isExtension) <;> rfl
  rw [hor, Option.map_or, List.find?_map, List.head?_map]
  rfl

theorem objectFields_unplaced (doc : Document) (type : String) :
    (doc.objectFields type).map (·.unplaced) =
      ((doc.definitionsOf type).map (·.unplaced)).flatMap (·.kind.objectFields) := by
  unfold objectFields
  rw [List.map_flatMap, List.flatMap_map]
  exact congrArg (List.flatMap · _) (funext fun t => (t.kind.objectFields_unplaced).symm)

namespace Rearranged

variable {doc doc' : Document}

protected theorem refl (doc : Document) : doc.Rearranged doc := ⟨.refl _, fun _ => rfl⟩

theorem symm (h : doc.Rearranged doc') : doc'.Rearranged doc := ⟨h.perm.symm, fun name => (h.order name).symm⟩

/-- The definitions have to be compared only for names that occur. -/
theorem of_names (hperm : (doc.types.map (·.unplaced)).Perm (doc'.types.map (·.unplaced)))
    (horder : ∀ name ∈ doc.types.map (·.name),
      (doc.definitionsOf name).map (·.unplaced) = (doc'.definitionsOf name).map (·.unplaced)) :
    doc.Rearranged doc' := by
  refine ⟨hperm, fun name => ?_⟩
  by_cases hname : name ∈ doc.types.map (·.name)
  · exact horder name hname
  · have hnames : (doc.types.map (·.name)).Perm (doc'.types.map (·.name)) := by
      have hmap := hperm.map TypeDef.name
      rwa [List.map_map, List.map_map] at hmap
    have hnone : ∀ d : Document, name ∉ d.types.map (·.name) → d.definitionsOf name = [] := by
      intro d hd
      refine List.filter_eq_nil_iff.2 fun t ht heq => hd (List.mem_map.2 ⟨t, ht, ?_⟩)
      simpa using heq
    rw [hnone doc hname, hnone doc' (fun hmem => hname (hnames.mem_iff.2 hmem))]

variable (h : doc.Rearranged doc')
include h

theorem typeNamed? (name : String) :
    (doc.typeNamed? name).map (·.unplaced) = (doc'.typeNamed? name).map (·.unplaced) := by
  rw [typeNamed?_unplaced, typeNamed?_unplaced, h.order]

/-- A test that does not look at positions. -/
theorem any_typeNamed? {test : TypeDef → Bool} (htest : ∀ t, test t.unplaced = test t) (name : String) :
    (doc.typeNamed? name).any test = (doc'.typeNamed? name).any test := by
  have hany : ∀ found : Option TypeDef, (found.map (·.unplaced)).any test = found.any test := by
    intro found
    cases found with
    | none => rfl
    | some t => exact htest t
  rw [← hany, h.typeNamed?, hany]

theorem isEnum (name : String) : doc.isEnum name = doc'.isEnum name :=
  h.any_typeNamed? (fun t => t.kind.isEnum_unplaced) name

theorem isScalar (name : String) : doc.isScalar name = doc'.isScalar name :=
  h.any_typeNamed? (fun t => t.kind.isScalar_unplaced) name

theorem isComposite (type : TypeRef) : doc.isComposite type = doc'.isComposite type := by
  cases type with
  | named name nullable => simp only [Document.isComposite, h.isEnum, h.isScalar]
  | list item nullable => rfl

theorem attributeType (type : TypeRef) : attributeType doc type = attributeType doc' type := by
  simp only [ModelApi.attributeType, h.isEnum]

theorem objectFields (type : String) :
    (doc.objectFields type).map (·.unplaced) = (doc'.objectFields type).map (·.unplaced) := by
  rw [objectFields_unplaced, objectFields_unplaced, h.order]

theorem field? (type name : String) :
    (doc.field? type name).map (·.unplaced) = (doc'.field? type name).map (·.unplaced) := by
  have hfind : ∀ d : Document, (d.field? type name).map (·.unplaced) =
      ((d.objectFields type).map (·.unplaced)).find? (·.name == name) := by
    intro d
    rw [List.find?_map]
    rfl
  rw [hfind, hfind, h.objectFields]

theorem attributes (k : Key) : k.attributes doc = k.attributes doc' := by
  simp only [Key.attributes, h.attributeType]

end Rearranged

end Document

end ModelApi.Schema
