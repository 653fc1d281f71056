import ModelApi.Directive.Rules

/-!
# Collecting declarations

Every rule sees every occurrence of a directive. All misuses are reported together, in the order in which the
directives are visited.
-/

namespace ModelApi

/-- The declarations so far, and the errors so far. -/
structure Visit where
  declared : Declarations := {}
  errors : List RuleError := []

instance : Inhabited Visit := ⟨{}⟩

/-- Lets a rule see an occurrence. -/
def Rule.visit (rule : Rule) (o : Occurrence) (v : Visit) : Visit :=
  if rule.directives.contains o.directive.name then
    match rule.declare o v.declared with
    | .ok declared => { v with declared }
    | .error misuse => { v with errors := v.errors ++ [⟨o.directive.pos, misuse⟩] }
  else v

/-- Lets rules see an occurrence, one after the other. -/
def visitWith (rules : List Rule) (o : Occurrence) (v : Visit) : Visit := rules.foldl (fun v rule => rule.visit o v) v

/-- Lets rules see all occurrences of a document. -/
def visitAll (rules : List Rule) (doc : Schema.Document) : Visit :=
  doc.occurrences.foldl (fun v o => visitWith rules o v) {}

/-- The rules of all directives that declare something. -/
def rules (doc : Schema.Document) (config : Config) (sources : DataSources) : List Rule :=
  [modelRule, primaryKeyRule doc, indexRule doc, sqlRule config, renameRule sources]

/-- What the directives of a document declare, or everything that is wrong with them. -/
def collect (doc : Schema.Document) (config : Config) (sources : DataSources) : Except (List RuleError) Declarations :=
  let v := visitAll (rules doc config sources) doc
  if v.errors.isEmpty then .ok v.declared else .error v.errors

end ModelApi
