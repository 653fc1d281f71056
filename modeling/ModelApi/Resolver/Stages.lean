import ModelApi.Directive.Basic
import ModelApi.Renames
import ModelApi.Resolver.Basic
import ModelApi.Template.Printer

/-!
# Templates before and after the data source

Around the request to its data source a resolver has a first slot, which stashes what the later templates read, a gate
for requests that are not authorized, and a response.
-/

namespace ModelApi

open ModelApi.Expr

/-! ## the first slot

A model operation stashes the values that a mutation writes unless its input overrides them, and how long the delta
table of sync queries keeps its records. -/

/-- A payload without content. -/
def emptyPayload : Expr := .toJson (.obj [("version", payloadVersion), ("payload", emptyObj)])

/-- Stashes a default value. -/
def stashDefault (field : String) (value : Expr) : Expr := perform "ctx.stash.defaultValues.put" [.str field, value]

/-- The timestamps that an operation sets. -/
def Model.stampedFields (m : Model) : Operation → List String
  | .create => m.timestamps.createdAt.toList ++ m.timestamps.updatedAt.toList
  | .update => m.timestamps.updatedAt.toList
  | _ => []

/-- Stashes an `id` and the timestamps, where the operation needs them. -/
def defaultValuesTemplate (m : Model) (o : Operation) (hasId : Bool) : Option String :=
  let stamped := m.stampedFields o
  let makesId := o = .create && hasId
  if stamped.isEmpty && !makesId then none
  else
    some (Expr.printSteps "Initialization default values" (
      [perform "ctx.stash.put" [.str "defaultValues", orElse (.ref "ctx.stash.defaultValues") emptyObj]] ++
      (if makesId then [stashDefault "id" (invoke "util.autoId" [])] else []) ++
      (if stamped.isEmpty then [] else
        assign "createdAt" (invoke "util.time.nowISO8601" []) :: stamped.map (stashDefault · (.ref "createdAt"))) ++
      [emptyPayload]))

/-- Stashes how long the delta table keeps its records. -/
def deltaTemplate (ttl : UInt32) : String :=
  Expr.printSteps "Sync Request template" [
    perform "ctx.stash.put" [.str "deltaSyncTableTtl", .int ttl.toNat],
    emptyPayload]

/-! ## renamed fields

Every resolver that serves a model with renamed fields stashes the renames, last in its first slot. -/

/-- Stashes the renames of a model. -/
def fieldMappingTemplate (m : FieldMap) : String :=
  Expr.printSteps "Set field mapping" [
    .perform "ctx.stash.put" [.str "fieldMap", .obj (m.fields.map fun r => (r.current, .str r.stored))],
    .raw "\x7b\x7d"]

/-- The resolver that a reference names. -/
def ResolverReference.key (r : ResolverReference) : ResolverKey := ⟨r.typeName, r.fieldName⟩

namespace Registry

/-- Puts the renames of a field map into the resolvers it refers to. -/
def attachFieldMap (r : Registry) (m : FieldMap) : Registry :=
  if m.fields.isEmpty then r
  else m.references.foldl (fun r reference => r.update reference.key (·.addRequest .init (fieldMappingTemplate m))) r

/-- Puts the renames of every field map into the resolvers it refers to. -/
def attachFieldMaps (r : Registry) (renames : Renames) : Registry := renames.fieldMaps.values.foldl attachFieldMap r

end Registry

/-! ## the gate

A request that no authorization rule has let through is refused after the authorization slots have run. In sandbox mode
a request with an API key may pass. -/

/-- What happens to a request that no rule has let through. -/
def Expr.refusal (sandbox : Bool) : Expr :=
  if sandbox then
    .when (.ne (.invoke "util.authType" []) (.str "API Key Authorization")) (.invoke "util.unauthorized" [])
  else .invoke "util.unauthorized" []

/-- The template of the gate. -/
def gateTemplate (sandbox : Bool) : String :=
  Expr.printSteps (if sandbox then "Sandbox Mode Enabled" else "Sandbox Mode Disabled") [
    .when (.not (.ref "ctx.stash.get(\"hasAuth\")")) (.refusal sandbox),
    .toJson .emptyObj]

/-! ## responses

Errors are raised and results returned as they are. Results of mutations are tagged. With sync the result goes along
with the error, so that clients can resolve conflicts. -/

/-- The response of an operation. -/
def responseTemplate (sync mutation : Bool) : String :=
  let tag := if mutation then [perform "ctx.result.put" [.str "__operation", .str "Mutation"]] else []
  let details := [.ref "ctx.error.message", .ref "ctx.error.type"] ++ (if sync then [.ref "ctx.result"] else [])
  Expr.printSteps "ResponseTemplate"
    (tag ++ [.ifElse (.ref "ctx.error") (invoke "util.error" details) (.toJson (.ref "ctx.result"))])

/-- The response of a query on an index. -/
def indexResponseTemplate : String :=
  (Expr.compound [
    .when (.ref "ctx.error") (.raw "$util.error($ctx.error.message, $ctx.error.type)"),
    .raw "$util.toJson($ctx.result)"]).print

end ModelApi
