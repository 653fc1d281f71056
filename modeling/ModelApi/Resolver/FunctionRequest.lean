import ModelApi.Directive.Basic
import ModelApi.Template.Printer

/-!
# Requests to the SQL function

A relational model is reached through a function. Its input holds the stored name of the table, the operation, the
arguments, and metadata that says which fields are kept as JSON, which are lists, and how fields are renamed.
-/

namespace ModelApi

open ModelApi.Expr

/-- What the function is asked to do. -/
inductive SqlOperation where
  | create | update | delete | get | list | sync
  /-- A query on a secondary index. -/
  | index
  /-- A statement as it stands. -/
  | statement
  deriving DecidableEq, Repr, Inhabited

def SqlOperation.tag : SqlOperation → String
  | .create => "CREATE"
  | .update => "UPDATE"
  | .delete => "DELETE"
  | .get => "GET"
  | .list => "LIST"
  | .sync => "SYNC"
  | .index => "INDEX"
  | .statement => "RAW_SQL"

/-- What a model operation asks for. -/
def Operation.sqlOperation : Operation → SqlOperation
  | .get => .get
  | .list => .list
  | .sync => .sync
  | .create => .create
  | .update => .update
  | .delete => .delete

/-! ## parts of requests -/

/-- Hands on the filter that an authorization rule has stashed. -/
def passAuthFilter : Expr :=
  .when (.not (invoke "util.isNullOrEmpty" [.ref "ctx.stash.authFilter"]))
    (assign "lambdaInput.args.metadata.authFilter" (.ref "ctx.stash.authFilter"))

/-- Hands on the renamed fields that the first slot has stashed. -/
def passFieldMap : Expr :=
  .compound [
    assign "lambdaInput.args.metadata.fieldMap" emptyObj,
    perform "lambdaInput.args.metadata.fieldMap.putAll" [orElse (.ref "context.stash.fieldMap") emptyObj]]

/-- The payload that invokes the function. -/
def invocation : Expr :=
  .obj [("version", payloadVersion), ("operation", .str "Invoke"),
    ("payload", invoke "util.toJson" [.ref "lambdaInput"])]

/-! ## requests -/

/-- Asks for an operation on the table of a model, which is stored under the name `stored`. -/
def functionRequest (doc : Schema.Document) (model stored : String) (operation : SqlOperation)
    (operationName : String) : String :=
  Expr.printSteps "Invoke RDS Lambda data source" [
    assign "lambdaInput" emptyObj,
    assign "lambdaInput.args" emptyObj,
    assign "lambdaInput.table" (.str stored),
    assign "lambdaInput.operation" (.str operation.tag),
    assign "lambdaInput.operationName" (.str operationName),
    assign "lambdaInput.args.metadata" emptyObj,
    assign "lambdaInput.args.metadata.keys" emptyList,
    passAuthFilter,
    assign "lambdaInput.args.metadata.nonScalarFields" (.list ((doc.compositeFields model).map .str)),
    assign "lambdaInput.args.metadata.arrayFields" (.list ((doc.listFields model).map .str)),
    passFieldMap,
    perform "lambdaInput.args.metadata.keys.addAll" [orElse (.ref "ctx.stash.keys") emptyList],
    assign "lambdaInput.args.input" (orElse (.ref "ctx.stash.defaultValues") emptyObj),
    perform "lambdaInput.args.input.putAll" [orElse (.ref "context.arguments") emptyObj],
    invocation]

/-- Asks for a statement, with the arguments of the field. -/
def statementRequest (statement operationName : String) : String :=
  Expr.printSteps "Invoke RDS Lambda data source" [
    assign "lambdaInput" emptyObj,
    assign "lambdaInput.args" emptyObj,
    assign "lambdaInput.statement" (.str statement),
    assign "lambdaInput.operation" (.str SqlOperation.statement.tag),
    assign "lambdaInput.operationName" (.str operationName),
    assign "lambdaInput.args.metadata" emptyObj,
    passAuthFilter,
    perform "lambdaInput.args.putAll" [orElse (.ref "context.arguments") emptyObj],
    invocation]

end ModelApi
