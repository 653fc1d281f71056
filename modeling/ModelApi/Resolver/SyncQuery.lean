import ModelApi.Resolver.KeyTemplate

/-!
# Sync queries

A sync query with a filter can read from the key that fits it best. Every key of a model registers itself under a name;
the registrations, between the set-up of the maps and the matching of the filter, are one template before the
authorization slots.
-/

namespace ModelApi

open ModelApi.Expr

/-- The name that a primary key registers under. -/
def primaryKeySyncName : String := "dbTable"

/-- The registration of a key under a name. -/
def syncRegistration (name : String) (k : Key) : Expr :=
  .block "Set query expression for @key" [
    .raw ("$util.qr($QueryMap.put('" ++ Text.joinWith "+" k.names ++ "' , '" ++ name ++ "'))"),
    .raw ("$util.qr($PkMap.put('" ++ k.partition.name ++ "' , '" ++ name ++ "'))"),
    perform "SkMap.put" [.str name, .list (k.sortNames.map .str)]]

/-! ## choosing a key -/

/-- Sets up the maps. -/
def syncSetup : Expr :=
  .block "Set map initialization for @key" [
    assign "index" (.str ""),
    assign "scan" (.bool true),
    assign "filterMap" emptyObj,
    assign "QueryMap" emptyObj,
    assign "PkMap" emptyObj,
    assign "SkMap" emptyObj,
    assign "filterArgsMap" emptyObj,
    .when (.ref "ctx.stash.QueryRequest") (.raw "#return"),
    assign "queryRequestVariables" emptyObj]

/-- Whether the delta table still holds everything since the last sync, so that no key is needed. -/
def deltaCheck : Expr :=
  .compound [
    assign "isLastSyncInDeltaTTLWindow" (.bool false),
    assign "minLastSync" (.raw "$util.time.nowEpochMilliSeconds() - $ctx.stash.deltaSyncTableTtl * 60 * 1000"),
    .when
      (.and [.not (invoke "util.isNull" [.ref "ctx.args.lastSync"]), .ne (.ref "ctx.args.lastSync") (.int 0),
        .raw "$minLastSync <= $ctx.args.lastSync"])
      (assign "isLastSyncInDeltaTTLWindow" (.bool true))]

/-- Takes the partition key from the first condition of the filter. -/
def matchPartition : Expr :=
  .when
    (.raw ("$ind == 0 && !$util.isNullOrEmpty($entry.value.eq) && " ++
      "!$util.isNullOrEmpty($PkMap.get($entry.key))"))
    (.compound [
      assign "pk" (.ref "entry.key"),
      assign "scan" (.bool false),
      .raw "$util.qr($ctx.args.put($pk,$entry.value.eq))",
      assign "index" (.ref "PkMap.get($pk)")])

/-- Takes the sort key from the second condition of the filter. -/
def matchSort : Expr :=
  .when
    (.raw ("$ind == 1 && !$util.isNullOrEmpty($pk) && " ++
      "!$util.isNullOrEmpty($QueryMap.get(\"$\x7bpk\x7d+$entry.key\"))"))
    (.compound [
      assign "sk" (.ref "entry.key"),
      .raw "$util.qr($ctx.args.put($sk,$entry.value))",
      assign "index" (.ref "QueryMap.get(\"$\x7bpk\x7d+$sk\")")])

/-- Keeps the other conditions as a filter. -/
def keepFilter : Expr :=
  .when (.raw "$ind > 0 && (!$util.isNullOrEmpty($pk) || !$util.isNullOrEmpty($sk))")
    (.quiet (.raw "$filterMap.put($entry.key,$entry.value)"))

/-- Matches the filter against the registered keys. -/
def matchFilter : Expr :=
  .block "Set query expression for @key" [.compound [.compound [
    assign "filterArgsMap" (.ref "ctx.args.filter.get(\"and\")"),
    deltaCheck,
    .ifElse (.raw "!$util.isNullOrEmpty($filterArgsMap) && !$isLastSyncInDeltaTTLWindow")
      (.compound [
        assign "json" (.raw "$filterArgsMap"),
        .forEach (.ref "item") (.ref "json") [
          assign "ind" (.raw "$foreach.index"),
          .forEach (.ref "entry") (.ref "item.entrySet()") [matchPartition, matchSort, keepFilter]]])
      (assign "filterMap" (.raw "$ctx.args.filter"))]]]

/-- Equality on the partition key that was matched. -/
def syncPartition : Expr :=
  .block "Set Primary Key initialization @key" [
    assign queryVariable emptyObj,
    .when (.raw "!$util.isNull($pk)") (.compound [
      assign (queryVariable ++ ".expression") (.str "#pk = :pk"),
      assign (queryVariable ++ ".expressionNames") (.obj [("#pk", .str "$pk")]),
      assign (queryVariable ++ ".expressionValues")
        (.obj [(":pk", .ref "util.parseJson($util.dynamodb.toDynamoDBJson($ctx.args.get($pk)))")])])]

/-- The condition on the sort key that was matched. -/
def syncSort : Expr :=
  .block "Applying Key Condition" (sortConditions.map fun c =>
    .when (.raw ("!$util.isNull($ctx.args.get($sk)) && !$util.isNull($ctx.args.get($sk)." ++ c.operator ++ ")"))
      (.compound (
        [addSortCondition queryVariable c.expression, nameSortKey queryVariable "$sk"] ++
        c.operands.map fun o => bindValue queryVariable o.placeholder
          ("$util.parseJson($util.dynamodb.toDynamoDBJson($ctx.args.get($sk)." ++ o.path ++ "))"))))

/-- Stashes the query when a key was matched. -/
def syncQuery : Expr :=
  .block " Set query expression for @key" [
    .when (.raw "!$scan") (.compound [
      assign "limit" (.ref ("util.defaultIfNull($context.args.limit, " ++ toString pageLimit ++ ")")),
      assign "ctx.stash.QueryRequestVariables" emptyObj,
      assign "ctx.stash.QueryRequest" (.obj [("version", payloadVersion), ("operation", .str "Sync"),
        ("limit", .ref "limit"), ("lastSync", .ref "util.defaultIfNull($ctx.args.lastSync, null)"),
        ("query", .ref queryVariable)]),
      addDirection "ctx.stash.QueryRequest",
      addNextToken "ctx.stash.QueryRequest",
      .when
        (.and [.raw "!$util.isNullOrEmpty($filterMap)", .ne (.toJson (.ref "filterMap")) (.toJson emptyObj)])
        (assign "ctx.stash.QueryRequest.filter"
          (.ref "util.parseJson($util.transform.toDynamoDBFilterExpression($filterMap))")),
      .when (.raw ("$index != \"" ++ primaryKeySyncName ++ "\""))
        (assign "ctx.stash.QueryRequest.index" (.ref "index"))]),
    .raw "$util.toJson(\x7b\x7d)"]

/-! ## putting templates into resolvers -/

/-- A template of several lines. Outside sync queries it ends with an empty payload. -/
def linesTemplate (lines : List String) (sync : Bool) : String :=
  Text.joinWith "\n" lines ++ "\n" ++ (if sync then "" else "\x7b\x7d")

/-- The choice among keys, given their registrations. -/
def syncTemplate (registrations : String) : String :=
  linesTemplate
    [syncSetup.print, registrations, matchFilter.print, syncPartition.print, syncSort.print, syncQuery.print] true

namespace Resolver

/-- Adds lines before the authorization slots. -/
def addLines (r : Resolver) (lines : List String) (sync : Bool) : Resolver :=
  r.addRequest .preAuth (linesTemplate lines sync)

/-- Adds the choice among registered keys before the authorization slots. -/
def addSyncChoice (r : Resolver) (registrations : String) : Resolver :=
  r.addRequest .preAuth (syncTemplate registrations)

end Resolver

/-- A key and the name it is registered under. -/
structure SyncEntry where
  name : String
  key : Key
  deriving DecidableEq, Repr

/-- The keys of each sync resolver, in the order in which they were registered. -/
abbrev SyncKeys := OrderedMap ResolverKey (List SyncEntry)

/-- Registers a key with a sync resolver. -/
def SyncKeys.register (s : SyncKeys) (resolver : ResolverKey) (name : String) (k : Key) : SyncKeys :=
  s.upsert resolver fun entries => entries.getD [] ++ [⟨name, k⟩]

/-- The registrations of several keys. -/
def registrationsText (entries : List SyncEntry) : String :=
  Text.joinWith "\n" (entries.map fun e => (syncRegistration e.name e.key).print)

/-- Adds the choice among registered keys to every resolver that has some. -/
def Registry.applySync (r : Registry) (s : SyncKeys) : Registry :=
  s.entries.foldl (fun r e => r.update e.1 (·.addSyncChoice (registrationsText e.2))) r

end ModelApi
