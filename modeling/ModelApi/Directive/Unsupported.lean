import ModelApi.Config.Basic
import ModelApi.Directive.Basic
import ModelApi.Schema.Reader
import ModelApi.Text.Classes

/-!
# Directives that relational models cannot have

As soon as some model is relational, certain directives are refused on the relational models and on the query root. The
first of them in the order of visits is reported.
-/

namespace ModelApi

/-- The directives that are refused. -/
def unsupportedDirectives : List String := ["searchable", "predictions", "function", "manyToMany", "http", "mapsTo"]

/-- A directive that is refused, and where it stands. -/
structure UnsupportedDirective where
  directive : String
  typeName : String
  fieldName : Option String
  deriving DecidableEq, Repr

def UnsupportedDirective.message (u : UnsupportedDirective) : String :=
  "@" ++ u.directive ++ " directive on type \"" ++ u.typeName ++ "\" " ++
    (match u.fieldName with
      | some field => "and field \"" ++ field ++ "\""
      | none => "") ++
    " is not supported on a SQL datasource. Following directives are not supported on a SQL datasource: " ++
    Text.joinWith ", " unsupportedDirectives

/-- Whether an occurrence is refused, given the relational models. -/
def Occurrence.isUnsupported (relational : List String) (o : Occurrence) : Bool :=
  (o.owner.name == Schema.queryType || relational.contains o.owner.name) &&
    unsupportedDirectives.contains o.directive.name

def Occurrence.unsupported (o : Occurrence) : UnsupportedDirective :=
  ⟨o.directive.name, o.owner.name, o.field.map (·.name)⟩

/-- The first directive that is refused. -/
def firstUnsupported? (doc : Schema.Document) (sources : DataSources) : Option UnsupportedDirective :=
  if sources.sqlModels.isEmpty then none
  else (doc.occurrences.find? (·.isUnsupported sources.sqlModels)).map (·.unsupported)

/-- Why a schema text does not pass the check. -/
inductive CheckError where
  | schema (e : Schema.ReadError)
  | unsupported (u : UnsupportedDirective)

/-- Checks a schema text. A blank one passes, and so does any when no strategy is given. -/
def checkSupported (schema : String) (sources : DataSources) : Except CheckError Unit := do
  if Text.isBlank schema || sources.isEmpty then return
  let doc ← (Schema.Document.read schema).mapError .schema
  match firstUnsupported? doc sources with
  | some u => .error (.unsupported u)
  | none => .ok ()

end ModelApi
