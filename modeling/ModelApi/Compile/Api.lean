import ModelApi.Compile.Keys
import ModelApi.Compile.Models
import ModelApi.Compile.Statements
import ModelApi.Directive.Collect
import ModelApi.Directive.Unsupported
import ModelApi.Resolver.Stages

/-!
# Compiling a schema

`compile` reads a schema, checks and collects its directives, and builds the resolvers and resources they ask for: the
models first, then keys and indexes, then fields with statements. At the end sync queries learn their keys and resolvers
the renamed fields.
-/

namespace ModelApi

/-- The outcome of a compilation. -/
structure Api where
  registry : Registry
  stack : Stack
  renames : Renames

/-- Why a compilation fails. -/
inductive CompileError where
  | schema (e : Schema.ReadError)
  | unsupported (u : UnsupportedDirective)
  | misused (errors : List RuleError)
  | build (e : BuildError)

def CompileError.message : CompileError → String
  | .schema e => e.message
  | .unsupported u => u.message
  | .misused errors => Text.joinWith "\n" (errors.map (·.message))
  | .build e => e.message

/-- Builds everything that is declared. -/
def Project.build (p : Project) (d : Declarations) : Build Unit := do
  p.addModels
  p.applyKeys d.primaryKeys d.indexes
  p.addSqlFields d.sqlFields

/-- The output with the templates that need to know everything else. -/
def Output.finish (o : Output) : Api :=
  { registry := (o.registry.applySync o.syncKeys).attachFieldMaps o.renames, stack := o.stack, renames := o.renames }

/-- The strategies of the models of a document. -/
def Config.sourcesOf (config : Config) (doc : Schema.Document) : DataSources := config.resolve doc.modelNames

/-- Compiles a document. -/
def compileDocument (doc : Schema.Document) (config : Config) : Except CompileError Api := do
  let sources := config.sourcesOf doc
  match firstUnsupported? doc sources with
  | some u => .error (.unsupported u)
  | none =>
    let declared ← (collect doc config sources).mapError .misused
    let project : Project := { config, doc, dataSources := sources, models := declared.models }
    match (project.build declared).run.run { renames := declared.renames } with
    | (.ok _, output) => .ok output.finish
    | (.error e, _) => .error (.build e)

/-- Compiles a schema text. -/
def compile (schema : String) (config : Config) : Except CompileError Api := do
  let doc ← (Schema.Document.read schema).mapError .schema
  compileDocument doc config

/-! ## encodings -/

def Api.toJson (a : Api) : Json := .obj [("resolvers", a.registry.toJson), ("stack", a.stack.toJson)]

end ModelApi
