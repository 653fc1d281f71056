import ModelApi.Schema.Grammar

/-!
# Reading schema documents

Behind the grammar, two things are checked definition by definition: numbers must be representable, and a schema
definition has a query root and at most one root of each kind.
-/

namespace ModelApi.Schema

open Text (Pos)

/-- Why a text is no schema document. -/
inductive ReadError where
  | malformed
  | multipleRoots (root : RootKind) (second schema : Pos)
  | missingQueryRoot (schema : Pos)
  deriving DecidableEq, Repr

/-- The wording of an error. A text that does not follow the grammar has none of its own. -/
def ReadError.message : ReadError → String
  | .malformed => ""
  | .multipleRoots root _ _ => "multiple " ++ root.word ++ " roots in schema definition"
  | .missingQueryRoot _ => "schema definition is missing query root"

/-- The places that an error names. -/
def ReadError.positions : ReadError → List Pos
  | .malformed => []
  | .multipleRoots _ second schema => [second, schema]
  | .missingQueryRoot schema => [schema]

/-! ## checks behind the grammar -/

def Directive.representable (d : Directive) : Bool := d.arguments.all (·.2.representable)

def InputValue.representable (v : InputValue) : Bool :=
  v.default.all (·.representable) && v.directives.all (·.representable)

def FieldDef.representable (f : FieldDef) : Bool :=
  f.arguments.all (·.representable) && f.directives.all (·.representable)

def TypeKind.representable : TypeKind → Bool
  | .object fields => fields.all (·.representable)
  | .interface fields => fields.all (·.representable)
  | .enum values => values.all (·.directives.all (·.representable))
  | .input fields => fields.all (·.representable)
  | _ => true

/-- The first root that repeats the kind of an earlier one. -/
def secondRoot? (seen : List RootKind) : List (RootKind × Pos) → Option (RootKind × Pos)
  | [] => none
  | (kind, pos) :: rest => if seen.contains kind then some (kind, pos) else secondRoot? (kind :: seen) rest

/-- The first error of a schema definition. -/
def SchemaDef.error? (d : SchemaDef) : Option ReadError :=
  if !d.directives.all (·.representable) then some .malformed
  else match secondRoot? [] d.roots with
    | some (kind, pos) => some (.multipleRoots kind pos d.pos)
    | none => if !d.isExtension && !d.roots.any (·.1 == .query) then some (.missingQueryRoot d.pos) else none

/-- The first error of a definition. -/
def Definition.error? : Definition → Option ReadError
  | .schema d => d.error?
  | .type d => if d.directives.all (·.representable) && d.kind.representable then none else some .malformed
  | .directive arguments => if arguments.all (·.representable) then none else some .malformed

/-- Reads a schema document. Of several errors behind the grammar the first in the document counts. -/
def Document.read (text : String) : Except ReadError Document :=
  match Text.Reader.whole Grammar.document text with
  | none => .error .malformed
  | some document =>
    match document.definitions.findSome? (·.error?) with
    | some e => .error e
    | none => .ok document

end ModelApi.Schema
