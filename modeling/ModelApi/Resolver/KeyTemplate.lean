import ModelApi.Resolver.ArgumentError
import ModelApi.Resolver.ItemRequest

/-!
# Templates for keys

How resolvers handle declared keys:

* `objectKeyTemplate` stashes the key of an item;
* `ensureCompositeTemplate` and `validateIndexTemplate` keep a composite sort key complete and in line with its parts;
* `keyQuery` builds the condition of a query from the arguments: equality on the partition key and an optional condition
  on the sort key. A composite sort key is queried through one argument with a value for each sort field.
-/

namespace ModelApi

open ModelApi.Expr

/-- The variable that says whether some part of a composite sort key was given. -/
def seenKeyVariable : String := "hasSeenSomeKeyArg"

/-- The comparisons of sort key conditions: the name of the argument and the sign. -/
def comparisons : List (String × String) := [("eq", "="), ("lt", "<"), ("le", "<="), ("gt", ">"), ("ge", ">=")]

/-! ## the key of an item -/

/-- A field of `source` as a key value. -/
def keyValue (source field : String) : Expr := .ref ("util.dynamodb.toDynamoDB($" ++ source ++ "." ++ field ++ ")")

/-- The attributes of an item's key, read from `source`. -/
def Key.itemAttributes (k : Key) (source : String) : List (String × Expr) :=
  (k.partition.name, keyValue source k.partition.name) ::
    match k.sort with
    | [] => []
    | [single] => [(single.name, keyValue source single.name)]
    | _ => [(compositeName k.sortNames,
        .ref ("util.dynamodb.toDynamoDB(\"" ++ compositeValue source k.sortNames ++ "\")"))]

/-- Where the fields of an item's key are read from. -/
def keySource (mutation : Bool) : String := if mutation then "mergedValues" else "ctx.args"

/-- Stashes the key of the item. -/
def objectKeyTemplate (k : Key) (mutation : Bool) : String :=
  Expr.printSteps "Set the primary key" [
    perform "ctx.stash.metadata.put" [.str objectKeyName, .obj (k.itemAttributes (keySource mutation))]]

/-- Merges the stashed defaults and the input. -/
def mergeTemplate : String := Expr.printSteps "Merge default values and inputs" mergeValues

/-! ## composite sort keys -/

/-- A name in single quotes. -/
def singleQuoted (name : String) : String := "'" ++ name ++ "'"

/-- Names a composite sort key for expressions and sets its value, unconditionally or once some part of it was seen in
the input. Empty when the sort key is not composite. -/
def ensureCompositeTemplate (k : Key) (onlyWhenSeen : Bool) : String :=
  if !k.isComposite then ""
  else
    let stored := compositeName k.sortNames
    let name := compositeArgument k.sortNames
    let setSortKey := Expr.quiet (.raw ("$ctx.args.input.put(" ++ singleQuoted stored ++ ",\"" ++
      compositeValue "mergedValues" k.sortNames ++ "\")"))
    (Expr.compound [
      .ifElse (.raw ("$util.isNull($ctx.stash.metadata." ++ nameOverridesName ++ ")"))
        (perform "ctx.stash.metadata.put" [.str nameOverridesName,
          .raw ("\x7b " ++ singleQuoted stored ++ ": \"" ++ name ++ "\" \x7d")])
        (perform ("ctx.stash.metadata." ++ nameOverridesName ++ ".put") [.raw (singleQuoted stored), .str name]),
      if onlyWhenSeen then .when (.ref seenKeyVariable) setSortKey else setSortKey]).print

/-- Refuses a mutation that gives a part of a composite sort key and not all of it. Empty when the sort key is not
composite. -/
def validateIndexTemplate (index : Index) (mutation : KeyMutation) : String :=
  if !index.key.isComposite then ""
  else
    Expr.printSteps ("Validate " ++ mutation.name ++ " mutation for @index " ++ singleQuoted index.name) [
      assign seenKeyVariable (.bool false),
      assign "keyFieldNames" (.list (index.key.sortNames.map .str)),
      .forEach (.ref "keyFieldName") (.ref "keyFieldNames") [
        .whenInline (.raw "$mergedValues.containsKey(\"$keyFieldName\")") (assign seenKeyVariable (.bool true))],
      .forEach (.ref "keyFieldName") (.ref "keyFieldNames") [
        .when (.raw ("$" ++ seenKeyVariable ++ " && !$mergedValues.containsKey(\"$keyFieldName\")"))
          (.raw ((ArgumentError.partialCompositeKey mutation index.name).call false))]]

/-! ## conditions of queries -/

/-- Refuses a sort direction where it means nothing. -/
def checkDirection (k : Key) (listing : Bool) : List Expr :=
  if k.sort.isEmpty then
    [.when (.raw "!$util.isNull($ctx.args.sortDirection)") (.raw (ArgumentError.directionWithoutSortKey.call true))]
  else if !listing then []
  else
    [.when
      (.and [.raw ("$util.isNull($ctx.args." ++ k.partition.name ++ ")"),
        .raw "!$util.isNull($ctx.args.sortDirection)"])
      (.raw ((ArgumentError.directionWithoutPartitionKey k.partition.name).call true))]

/-- Refuses a condition on the sort key without the partition key. -/
def checkSortArgument (k : Key) : List Expr :=
  k.sortArgument?.toList.map fun argument =>
    .block "Validate key arguments" [
      .when (.raw ("!$util.isNull($ctx.args." ++ argument ++ ") && $util.isNullOrBlank($ctx.args." ++
          k.partition.name ++ ")"))
        (.raw ((ArgumentError.sortKeyAlone argument k.partition.name).call true))]

/-- Equality on the partition key. -/
def partitionCondition (target partition : String) (type : AttributeType) : Expr :=
  .when (.raw ("!$util.isNull($ctx.args." ++ partition ++ ")")) (.compound [
    assign (target ++ ".expression") (.str ("#" ++ partition ++ " = :" ++ partition)),
    assign (target ++ ".expressionNames") (.obj [("#" ++ partition, .str partition)]),
    assign (target ++ ".expressionValues")
      (.obj [(":" ++ partition, .obj [(type.tag, .str ("$ctx.args." ++ partition))])])])

/-- A value that a sort key is compared with: the path inside the argument, the variable that a composite is condensed
in, and the placeholder in the expression. -/
structure Operand where
  path : String
  target : String
  placeholder : String

/-- A form of sort key condition: its name in the argument, its expression and its operands. -/
structure SortCondition where
  operator : String
  expression : String
  operands : List Operand

/-- The sort key conditions that an argument can state, in order. -/
def sortConditions : List SortCondition :=
  [⟨"beginsWith", "begins_with(#sortKey, :sortKey)", [⟨"beginsWith", "sortKeyValue", ":sortKey"⟩]⟩,
    ⟨"between", "#sortKey BETWEEN :sortKey0 AND :sortKey1",
      [⟨"between[0]", "sortKeyValue0", ":sortKey0"⟩, ⟨"between[1]", "sortKeyValue1", ":sortKey1"⟩]⟩] ++
  comparisons.map fun (operator, sign) =>
    ⟨operator, "#sortKey " ++ sign ++ " :sortKey", [⟨operator, "sortKeyValue", ":sortKey"⟩]⟩

/-- Whether an argument states a condition. -/
def conditionGiven (argument operator : String) : Expr :=
  .raw ("!$util.isNull($ctx.args." ++ argument ++ ") && !$util.isNull($ctx.args." ++ argument ++ "." ++ operator ++ ")")

/-- Adds a sort key condition to a query. -/
def addSortCondition (target expression : String) : Expr :=
  assign (target ++ ".expression") (.raw ("\"$" ++ target ++ ".expression AND " ++ expression ++ "\""))

/-- Names the sort key; `name` is template text. -/
def nameSortKey (target name : String) : Expr :=
  .quiet (.raw ("$" ++ target ++ ".expressionNames.put(\"#sortKey\", " ++ name ++ ")"))

/-- Binds a placeholder; `value` is template text. -/
def bindValue (target placeholder value : String) : Expr :=
  .quiet (.raw ("$" ++ target ++ ".expressionValues.put(\"" ++ placeholder ++ "\", " ++ value ++ ")"))

/-- A value tagged with its attribute type. -/
def taggedValue (type : AttributeType) (value : String) : String :=
  "\x7b \"" ++ type.tag ++ "\": \"" ++ value ++ "\" \x7d"

/-- The conditions on a sort key of one field. -/
def singleConditions (target argument : String) (type : AttributeType) : Expr :=
  .block "Applying Key Condition" (sortConditions.map fun c =>
    .when (conditionGiven argument c.operator) (.compound (
      [addSortCondition target c.expression, nameSortKey target ("\"" ++ argument ++ "\"")] ++
      c.operands.map fun o =>
        bindValue target o.placeholder (taggedValue type ("$ctx.args." ++ argument ++ "." ++ o.path)))))

/-- Appends the given parts of a composite to a variable; only the first goes without a separator. -/
def condenseParts (argument : String) (o : Operand) (isFirst : Bool) : List String → List Expr
  | [] => []
  | field :: rest =>
    let part := "$ctx.args." ++ argument ++ "." ++ o.path ++ "." ++ field
    .whenInline (.raw ("!$util.isNull(" ++ part ++ ")"))
        (assign o.target (.str (if isFirst then part else "$" ++ o.target ++ "#" ++ part))) ::
      condenseParts argument o false rest

/-- Condenses the parts of a composite that are given for an operand. -/
def condense (argument : String) (fields : List String) (o : Operand) : List Expr :=
  assign o.target (.str "") :: condenseParts argument o true fields

/-- The conditions on a composite sort key. -/
def compositeConditions (target : String) (fields : List String) : Expr :=
  let argument := compositeArgument fields
  .block "Applying Key Condition" (sortConditions.map fun c =>
    .when (conditionGiven argument c.operator) (.compound (
      c.operands.flatMap (condense argument fields) ++
      [addSortCondition target c.expression, nameSortKey target ("\"" ++ compositeName fields ++ "\"")] ++
      c.operands.map fun o => bindValue target o.placeholder (taggedValue .s ("$" ++ o.target)))))

/-- The condition of a query by key, put into the variable `target`. -/
def keyConditions (doc : Schema.Document) (k : Key) (target : String) : Expr :=
  .compound (
    checkSortArgument k ++
    [partitionCondition target k.partition.name (attributeType doc k.partition.type)] ++
    match k.sort with
    | [] => []
    | [single] => [singleConditions target single.name (attributeType doc single.type)]
    | _ => [compositeConditions target k.sortNames])

/-- Builds the condition of a list or index query from its arguments. -/
def keyQuery (doc : Schema.Document) (k : Key) (listing : Bool) : Expr :=
  .block "Set query expression for key"
    (checkDirection k listing ++ [assign queryVariable emptyObj, keyConditions doc k queryVariable])

/-- The request of a query on an index of a table. -/
def indexRequest (doc : Schema.Document) (index : Index) : String :=
  (Expr.compound [
    keyQuery doc index.key false,
    setLimit,
    assign "QueryRequest" (.obj [("version", payloadVersion), ("operation", .str "Query"), ("limit", .ref "limit"),
      ("query", .ref queryVariable), ("index", .str index.name)]),
    addDirection "QueryRequest",
    addNextToken "QueryRequest",
    addFilter "QueryRequest",
    .raw "$util.toJson($QueryRequest)"]).print

end ModelApi
