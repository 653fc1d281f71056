import ModelApi.Directive.Basic
import ModelApi.Template.Printer

/-!
# Requests to a table

The request template of each operation on a model that is kept in a table. A key that an earlier slot has stashed
takes the place of the `id`; a stashed condition turns a scan into a query.
-/

namespace ModelApi

open ModelApi.Expr

/-- The variable that holds the conditions of a query. -/
def queryVariable : String := "modelQueryExpression"

/-- The stashed key of an item. -/
def objectKeyName : String := "modelObjectKey"

/-- The stashed map from attributes to names that are allowed in expressions. -/
def nameOverridesName : String := "dynamodbNameOverrideMap"

/-- The number of items on a page when the request states none. -/
def pageLimit : Int := 100

/-! ## parts of requests -/

/-- `mergedValues`: the stashed defaults, overridden by the input. -/
def mergeValues : List Expr := [
  assign "mergedValues" (orElse (.ref "ctx.stash.defaultValues") emptyObj),
  perform "mergedValues.putAll" [orElse (.ref "ctx.args.input") emptyObj]]

/-- The key of the item: the stashed one, or an `id`. -/
def itemKey (target id : String) : Expr :=
  .ifElse (.ref ("ctx.stash.metadata." ++ objectKeyName))
    (assign target (.ref ("ctx.stash.metadata." ++ objectKeyName)))
    (assign target (.obj [("id", .ref ("util.dynamodb.toDynamoDB($" ++ id ++ ")"))]))

/-- `limit`: the page size. -/
def setLimit : Expr := assign "limit" (orElse (.ref "context.args.limit") (.int pageLimit))

/-- Adds the filter of the request. -/
def addFilter (request : String) : Expr :=
  .when (.ref "context.args.filter") (assign (request ++ ".filter")
    (.raw "$util.parseJson(\"$util.transform.toDynamoDBFilterExpression($ctx.args.filter)\")"))

/-- Adds the token of the next page. -/
def addNextToken (request : String) : Expr :=
  .whenInline (.ref "context.args.nextToken") (assign (request ++ ".nextToken") (.ref "context.args.nextToken"))

/-- Adds the direction of the scan. -/
def addDirection (request : String) : Expr :=
  .ifElse (.raw "!$util.isNull($ctx.args.sortDirection) && $ctx.args.sortDirection == \"DESC\"")
    (assign (request ++ ".scanIndexForward") (.bool false))
    (assign (request ++ ".scanIndexForward") (.bool true))

/-! ## requests -/

def getRequest : String :=
  Expr.printSteps "Get Request template" [
    assign "GetRequest" (.obj [("version", payloadVersion), ("operation", .str "GetItem")]),
    itemKey "key" "ctx.args.id",
    perform "GetRequest.put" [.str "key", .ref "key"],
    .toJson (.ref "GetRequest")]

/-- A query when conditions are stashed, else a scan. -/
def listRequest : String :=
  let conditions := "ctx.stash." ++ queryVariable
  Expr.printSteps "List Request" [
    setLimit,
    assign "ListRequest" (.obj [("version", payloadVersion), ("limit", .ref "limit")]),
    addNextToken "ListRequest",
    addFilter "ListRequest",
    .ifElse
      (.raw ("!$util.isNull($" ++ conditions ++ ") && !$util.isNullOrEmpty($" ++ conditions ++ ".expression)"))
      (.compound [
        perform "ListRequest.put" [.str "operation", .str "Query"],
        perform "ListRequest.put" [.str "query", .ref conditions],
        addDirection "ListRequest"])
      (perform "ListRequest.put" [.str "operation", .str "Scan"]),
    .toJson (.ref "ListRequest")]

/-- The stashed query when a key fits the filter, else a sync of the whole table. -/
def syncRequest : String :=
  Expr.printBlock "Sync Request template"
    (.ifElse (.ref "ctx.stash.QueryRequest") (.toJson (.ref "ctx.stash.QueryRequest"))
      (.compound [
        setLimit,
        assign "SyncRequest" (.obj [("version", payloadVersion), ("operation", .str "Sync"), ("limit", .ref "limit"),
          ("lastSync", .ref "util.defaultIfNull($ctx.args.lastSync, null)")]),
        addNextToken "SyncRequest",
        addFilter "SyncRequest",
        .toJson (.ref "SyncRequest")]))

def createRequest : String :=
  Expr.printSteps "Create Request template" (mergeValues ++ [
    assign "PutObject" (.obj [("version", payloadVersion), ("operation", .str "PutItem"),
      ("attributeValues", invoke "util.dynamodb.toMapValues" [.ref "mergedValues"])]),
    itemKey "Key" "mergedValues.id",
    perform "PutObject.put" [.str "key", .ref "Key"],
    .toJson (.ref "PutObject")])

/-- Sets every attribute of the input that is not in the key. An attribute with a stashed name goes by that name in
the expression. -/
def updateRequest : String :=
  Expr.printSteps "Update Request template" (mergeValues ++ [
    itemKey "Key" "mergedValues.id",
    assign "expSet" emptyList,
    assign "expNames" emptyObj,
    assign "expValues" emptyObj,
    .forEach (.ref "entry") (.ref "mergedValues.entrySet()") [
      .when (.raw "!$Key.containsKey($entry.key)") (.compound [
        assign "entryName" (.raw ("$util.defaultIfNull($ctx.stash.metadata." ++ nameOverridesName ++
          ".get($entry.key), $entry.key)")),
        .raw "$util.qr($expSet.add(\"#$entryName = :$entryName\"))",
        .raw "$util.qr($expNames.put(\"#$entryName\", $entry.key))",
        .raw "$util.qr($expValues.put(\":$entryName\", $util.dynamodb.toDynamoDB($entry.value)))"])],
    assign "expression" (.str "SET"),
    .forEach (.ref "assignment") (.ref "expSet") [
      assign "expression" (.str "$expression $assignment"),
      .whenInline (.ref "foreach.hasNext") (assign "expression" (.str "$expression,"))],
    assign "UpdateItem" (.obj [("version", payloadVersion), ("operation", .str "UpdateItem"), ("key", .ref "Key"),
      ("update", .obj [("expression", .str "$expression"), ("expressionNames", .ref "expNames"),
        ("expressionValues", .ref "expValues")])]),
    .toJson (.ref "UpdateItem")])

def deleteRequest : String :=
  Expr.printSteps "Delete Request template" [
    assign "DeleteRequest" (.obj [("version", payloadVersion), ("operation", .str "DeleteItem")]),
    itemKey "Key" "ctx.args.input.id",
    perform "DeleteRequest.put" [.str "key", .ref "Key"],
    .toJson (.ref "DeleteRequest")]

/-- The request of an operation. -/
def itemRequest : Operation → String
  | .get => getRequest
  | .list => listRequest
  | .sync => syncRequest
  | .create => createRequest
  | .update => updateRequest
  | .delete => deleteRequest

end ModelApi
