import ModelApi.Json.Basic

/-!
# Renames

Models and fields may be stored under other names than the schema gives them. A field map also lists the resolvers that
serve its model, since they have to know it.
-/

namespace ModelApi

/-- A field and the name it is stored under. -/
structure FieldRename where
  stored : String
  current : String
  deriving DecidableEq, Repr

/-- A resolver that serves a model. -/
structure ResolverReference where
  typeName : String
  fieldName : String
  isList : Bool
  deriving DecidableEq, Repr

/-- The renamed fields of a model, each once, and the resolvers that serve it, each once. -/
structure FieldMap where
  fields : List FieldRename := []
  references : List ResolverReference := []
  deriving DecidableEq, Repr

namespace FieldMap

/-- Renames a field; an earlier rename of the same field is forgotten. -/
def rename (m : FieldMap) (r : FieldRename) : FieldMap :=
  { m with fields := m.fields.filter (·.current != r.current) ++ [r] }

/-- Notes a resolver unless it is noted already. -/
def refer (m : FieldMap) (r : ResolverReference) : FieldMap :=
  if m.references.contains r then m else { m with references := m.references ++ [r] }

end FieldMap

/-- The names under which models and fields are stored. -/
structure Renames where
  modelNames : OrderedMap String String := .empty
  fieldMaps : OrderedMap String FieldMap := .empty
  deriving DecidableEq

namespace Renames

instance : Inhabited Renames := ⟨{}⟩

/-- Sets the name under which a model is stored. -/
def renameModel (r : Renames) (model stored : String) : Renames :=
  { r with modelNames := r.modelNames.insert model stored }

/-- The name under which a model is stored; its own name unless it is renamed. -/
def storedModel (r : Renames) (model : String) : String := (r.modelNames.get? model).getD model

/-- Changes the field map of a model, which is created when there is none. -/
def updateFieldMap (r : Renames) (model : String) (f : FieldMap → FieldMap) : Renames :=
  { r with fieldMaps := r.fieldMaps.upsert model fun m => f (m.getD {}) }

/-- Renames a field of a model. -/
def renameField (r : Renames) (model : String) (rename : FieldRename) : Renames :=
  r.updateFieldMap model (·.rename rename)

/-- Notes a resolver that serves a model, when the model has renamed fields. -/
def refer (r : Renames) (model : String) (reference : ResolverReference) : Renames :=
  { r with fieldMaps := r.fieldMaps.update model fun m => if m.fields.isEmpty then m else m.refer reference }

end Renames

/-! ## encodings -/

def FieldRename.toJson (r : FieldRename) : Json :=
  .obj [("originalFieldName", .str r.stored), ("currentFieldName", .str r.current)]

def ResolverReference.toJson (r : ResolverReference) : Json :=
  .obj [("typeName", .str r.typeName), ("fieldName", .str r.fieldName), ("isList", .bool r.isList)]

def FieldMap.toJson (m : FieldMap) : Json :=
  .obj [("mappedFields", .arr (m.fields.map (·.toJson))), ("resolverReferences", .arr (m.references.map (·.toJson)))]

def Renames.toJson (r : Renames) : Json :=
  .obj [("modelNameMappings", .ofMapWith .str r.modelNames), ("fieldMaps", .ofMapWith (·.toJson) r.fieldMaps)]

end ModelApi
