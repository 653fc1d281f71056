import ModelApi.Proofs.Template.Indentation
import ModelApi.Resolver.ItemRequest
import ModelApi.Resolver.Stages
import ModelApi.Resolver.SyncQuery

/-!
# Templates as texts

What templates say, line by line, without the trees that they are printed from.

* `mergeText`, `Key.stashText`, `overrideText`, `Key.ensureText`, `Index.validateText`: the templates for keys;
* `SyncEntry.registrationText`, `syncText`: the choice among the keys of a sync query;
* `updateText`: the request of an update;
* `FieldMap.stashText`: the renames that a resolver stashes.

A lemma for each says that this is what is printed.
-/

namespace ModelApi

open ModelApi.Expr
open Text (joinWith)

/-! ## printing line by line -/

namespace Expr

theorem print_compound (steps : List Expr) : (compound steps).print = joinWith "\n" (steps.map print) :=
  congrArg (joinWith "\n") (renderAll_eq .statement "" steps)

theorem printSteps_eq (name : String) {steps : List Expr} (h : steps ≠ []) :
    printSteps name steps = joinWith "\n" (startMark name :: (steps.map print ++ [endMark name])) := by
  obtain ⟨step, rest, rfl⟩ := List.exists_cons_of_ne_nil h
  rw [List.map_cons, List.cons_append, joinWith, ← List.cons_append, Text.joinWith_concat _ _ (List.cons_ne_nil _ _),
    ← List.map_cons, ← print_compound, printSteps, printBlock]
  simp only [String.append_assoc]

theorem print_ifElse (condition : String) (yes no : Expr) :
    (ifElse (.raw condition) yes no).print = joinWith "\n"
      ["#if( " ++ condition ++ " )", render .statement tab yes, "#else", render .statement tab no, "#end"] := by
  simp only [print, render, joinWith, Position.lead, String.append_assoc, String.empty_append]
  rfl

theorem render_when (indent : String) (condition body : Expr) :
    render .statement indent (when condition body) = joinWith "\n"
      [indent ++ "#if( " ++ render .value indent condition ++ " )", render .statement (indent ++ tab) body,
        indent ++ "#end"] := by
  simp only [when, render, joinWith, Position.lead, String.append_assoc]
  rfl

theorem print_forEach (item collection : String) (body : Expr) :
    (forEach (.ref item) (.ref collection) [body]).print = joinWith "\n"
      ["#foreach( $" ++ item ++ " in $" ++ collection ++ " )", render .statement tab body, "#end"] := by
  simp only [print, render, renderAll, joinWith, Position.lead, String.append_assoc, String.empty_append]
  rfl

theorem renderAll_str (indent : String) (names : List String) :
    renderAll .value indent (names.map .str) = names.map fun name => "\"" ++ name ++ "\"" := by
  rw [renderAll_eq, List.map_map]
  rfl

end Expr

/-! ## the templates for keys -/

/-- Lines one below the other, and an empty result. -/
def linesText (lines : List String) : String := joinWith "\n" lines ++ "\n\x7b\x7d"

theorem linesTemplate_eq (lines : List String) : linesTemplate lines false = linesText lines := by
  rw [linesTemplate, if_neg Bool.false_ne_true, linesText, String.append_assoc]
  rfl

/-- Names in double quotes, as the items of a list. -/
def quotedItems (names : List String) : String := joinWith ", " (names.map fun name => "\"" ++ name ++ "\"")

/-- The stashed defaults are merged with the input. -/
def mergeText : String := joinWith "\n" [
  "## [Start] Merge default values and inputs. **",
  "#set( $mergedValues = $util.defaultIfNull($ctx.stash.defaultValues, \x7b\x7d) )",
  "$util.qr($mergedValues.putAll($util.defaultIfNull($ctx.args.input, \x7b\x7d)))",
  "## [End] Merge default values and inputs. **"]

theorem mergeTemplate_eq : mergeTemplate = mergeText := by decide +kernel

/-- The attributes of a key, read from `source`; the fields of a composite are joined. -/
def Key.itemLines (k : Key) (source : String) : List String :=
  ("  \"" ++ k.partition.name ++ "\": $util.dynamodb.toDynamoDB($" ++ source ++ "." ++ k.partition.name ++ ")") ::
    match k.sort with
    | [] => []
    | [single] => ["  \"" ++ single.name ++ "\": $util.dynamodb.toDynamoDB($" ++ source ++ "." ++ single.name ++ ")"]
    | _ => ["  \"" ++ joinWith "#" k.sortNames ++ "\": $util.dynamodb.toDynamoDB(\"" ++
        joinWith "#" (k.sortNames.map fun name => "$\x7b" ++ source ++ "." ++ name ++ "\x7d") ++ "\")"]

/-- The key of an item is stashed. -/
def Key.stashText (k : Key) (source : String) : String := joinWith "\n" [
  "## [Start] Set the primary key. **",
  "$util.qr($ctx.stash.metadata.put(\"modelObjectKey\", \x7b\n" ++ joinWith ",\n" (k.itemLines source) ++ "\n\x7d))",
  "## [End] Set the primary key. **"]

theorem Key.renderAttributes_itemAttributes (k : Key) (source : String) :
    renderAttributes tab (k.itemAttributes source) = k.itemLines source := by
  have hline : ∀ name : String, tab ++ "\"" ++ name ++ "\": " ++ render .value tab (keyValue source name) =
      "  \"" ++ name ++ "\": $util.dynamodb.toDynamoDB($" ++ source ++ "." ++ name ++ ")" := by
    intro name
    simp only [keyValue, render, Position.lead, tab, String.append_assoc, String.empty_append]
    rfl
  have hcomposite : ∀ name value : String, tab ++ "\"" ++ name ++ "\": " ++
      render .value tab (.ref ("util.dynamodb.toDynamoDB(\"" ++ value ++ "\")")) =
        "  \"" ++ name ++ "\": $util.dynamodb.toDynamoDB(\"" ++ value ++ "\")" := by
    intro name value
    simp only [render, Position.lead, tab, String.append_assoc, String.empty_append]
    rfl
  obtain ⟨partition, sort⟩ := k
  rcases sort with _ | ⟨first, _ | ⟨second, rest⟩⟩
  · simp only [itemAttributes, itemLines, renderAttributes, hline]
  · simp only [itemAttributes, itemLines, renderAttributes, hline]
  · simp only [itemAttributes, itemLines, renderAttributes, hline, hcomposite]
    rfl

theorem objectKeyTemplate_eq (k : Key) (mutation : Bool) :
    objectKeyTemplate k mutation = k.stashText (keySource mutation) := by
  have hput : (perform "ctx.stash.metadata.put"
      [.str objectKeyName, .obj (k.itemAttributes (keySource mutation))]).print =
      "$util.qr($ctx.stash.metadata.put(\"modelObjectKey\", \x7b\n" ++
        joinWith ",\n" (k.itemLines (keySource mutation)) ++ "\n\x7d))" := by
    rw [← Key.renderAttributes_itemAttributes, Key.itemAttributes]
    simp only [print, perform, invoke, render, renderAll, joinWith, Position.lead, objectKeyName, String.append_assoc,
      String.empty_append]
    rfl
  rw [objectKeyTemplate, printSteps_eq _ (List.cons_ne_nil _ _), List.map_singleton, hput]
  rfl

/-- The name that an attribute goes by in expressions is stashed, next to those that are stashed already. -/
def overrideText (stored name : String) : String := joinWith "\n" [
  "#if( $util.isNull($ctx.stash.metadata.dynamodbNameOverrideMap) )",
  "  $util.qr($ctx.stash.metadata.put(\"dynamodbNameOverrideMap\", \x7b '" ++ stored ++ "': \"" ++ name ++ "\" \x7d))",
  "#else",
  "  $util.qr($ctx.stash.metadata.dynamodbNameOverrideMap.put('" ++ stored ++ "', \"" ++ name ++ "\"))",
  "#end"]

/-- The composite of the sort fields is put into the input. -/
def Key.putText (k : Key) : String :=
  "$util.qr($ctx.args.input.put('" ++ joinWith "#" k.sortNames ++ "',\"" ++
    joinWith "#" (k.sortNames.map fun name => "$\x7bmergedValues." ++ name ++ "\x7d") ++ "\"))"

/-- A composite sort key gets its name and its value; the value possibly only when a part of it is given. -/
def Key.ensureText (k : Key) (onlyWhenSeen : Bool) : String := joinWith "\n" [
  overrideText (joinWith "#" k.sortNames) (compositeArgument k.sortNames),
  if onlyWhenSeen then joinWith "\n" ["#if( $hasSeenSomeKeyArg )", "  " ++ k.putText, "#end"] else k.putText]

theorem print_override (stored name : String) :
    (ifElse (.raw ("$util.isNull($ctx.stash.metadata." ++ nameOverridesName ++ ")"))
      (perform "ctx.stash.metadata.put" [.str nameOverridesName,
        .raw ("\x7b " ++ singleQuoted stored ++ ": \"" ++ name ++ "\" \x7d")])
      (perform ("ctx.stash.metadata." ++ nameOverridesName ++ ".put") [.raw (singleQuoted stored), .str name])).print =
      overrideText stored name := by
  have hcondition : "#if( " ++ ("$util.isNull($ctx.stash.metadata." ++ nameOverridesName ++ ")") ++ " )" =
      "#if( $util.isNull($ctx.stash.metadata.dynamodbNameOverrideMap) )" := by decide +kernel
  have hfirst : render .statement tab (perform "ctx.stash.metadata.put" [.str nameOverridesName,
      .raw ("\x7b " ++ singleQuoted stored ++ ": \"" ++ name ++ "\" \x7d")]) =
      "  $util.qr($ctx.stash.metadata.put(\"dynamodbNameOverrideMap\", \x7b '" ++ stored ++ "': \"" ++ name ++
        "\" \x7d))" := by
    simp only [perform, invoke, render, renderAll, joinWith, Position.lead, tab, nameOverridesName, singleQuoted,
      String.append_assoc, String.empty_append]
    rfl
  have hnext : render .statement tab
      (perform ("ctx.stash.metadata." ++ nameOverridesName ++ ".put") [.raw (singleQuoted stored), .str name]) =
      "  $util.qr($ctx.stash.metadata.dynamodbNameOverrideMap.put('" ++ stored ++ "', \"" ++ name ++ "\"))" := by
    simp only [perform, invoke, render, renderAll, joinWith, Position.lead, tab, nameOverridesName, singleQuoted,
      String.append_assoc, String.empty_append]
    rfl
  rw [print_ifElse, hcondition, hfirst, hnext, overrideText]

theorem ensureCompositeTemplate_eq {k : Key} (h : k.isComposite = true) (onlyWhenSeen : Bool) :
    ensureCompositeTemplate k onlyWhenSeen = k.ensureText onlyWhenSeen := by
  have hput : ∀ indent stored value, render .statement indent (.quiet (.raw ("$ctx.args.input.put(" ++
      singleQuoted stored ++ ",\"" ++ value ++ "\")"))) =
      indent ++ ("$util.qr($ctx.args.input.put('" ++ stored ++ "',\"" ++ value ++ "\"))") := by
    intro indent stored value
    simp only [render, Position.lead, singleQuoted, String.append_assoc, String.empty_append]
    rfl
  rw [ensureCompositeTemplate, if_neg (by simp [h]), print_compound, List.map_cons, print_override, List.map_singleton]
  cases onlyWhenSeen with
  | false =>
    rw [if_neg Bool.false_ne_true, print, hput, String.empty_append]
    rfl
  | true =>
    rw [if_pos rfl, print, render_when, hput]
    rfl

/-- What a mutation is told that gives a part of a composite sort key and not all of it. -/
def Index.refusal (i : Index) (gerund : String) : String :=
  "When " ++ gerund ++ " any part of the composite sort key for @index '" ++ i.name ++
    "', you must provide all fields for the key. Missing key: '$keyFieldName'."

/-- A mutation is refused that gives a part of the composite sort key of an index and not all of it. -/
def Index.validateText (i : Index) (verb gerund : String) : String := joinWith "\n" [
  "## [Start] Validate " ++ verb ++ " mutation for @index '" ++ i.name ++ "'. **",
  "#set( $hasSeenSomeKeyArg = false )",
  "#set( $keyFieldNames = [" ++ quotedItems i.key.sortNames ++ "] )",
  "#foreach( $keyFieldName in $keyFieldNames )",
  "  #if( $mergedValues.containsKey(\"$keyFieldName\") ) #set( $hasSeenSomeKeyArg = true ) #end",
  "#end",
  "#foreach( $keyFieldName in $keyFieldNames )",
  "  #if( $hasSeenSomeKeyArg && !$mergedValues.containsKey(\"$keyFieldName\") )",
  "    $util.error(\"" ++ i.refusal gerund ++ "\")",
  "  #end",
  "#end",
  "## [End] Validate " ++ verb ++ " mutation for @index '" ++ i.name ++ "'. **"]

/-- The loop that looks for a part of the key. -/
theorem print_seenLoop :
    (forEach (.ref "keyFieldName") (.ref "keyFieldNames") [
      .whenInline (.raw "$mergedValues.containsKey(\"$keyFieldName\")") (assign seenKeyVariable (.bool true))]).print =
      joinWith "\n" ["#foreach( $keyFieldName in $keyFieldNames )",
        "  #if( $mergedValues.containsKey(\"$keyFieldName\") ) #set( $hasSeenSomeKeyArg = true ) #end", "#end"] := by
  decide +kernel

/-- The loop that does something about each missing part of the key. -/
theorem print_missingLoop (text : String) :
    (forEach (.ref "keyFieldName") (.ref "keyFieldNames") [
      .when (.raw ("$" ++ seenKeyVariable ++ " && !$mergedValues.containsKey(\"$keyFieldName\")"))
        (.raw text)]).print =
      joinWith "\n" ["#foreach( $keyFieldName in $keyFieldNames )",
        "  #if( $hasSeenSomeKeyArg && !$mergedValues.containsKey(\"$keyFieldName\") )", "    " ++ text, "  #end",
        "#end"] := by
  have hcondition : tab ++ "#if( " ++ render .value tab (.raw ("$" ++ seenKeyVariable ++
      " && !$mergedValues.containsKey(\"$keyFieldName\")")) ++ " )" =
      "  #if( $hasSeenSomeKeyArg && !$mergedValues.containsKey(\"$keyFieldName\") )" := by decide +kernel
  rw [print_forEach, render_when, hcondition]
  simp only [joinWith, String.append_assoc]
  rfl

theorem validateIndexTemplate_eq {i : Index} (h : i.key.isComposite = true) (m : KeyMutation) :
    validateIndexTemplate i m = i.validateText m.name m.gerund := by
  have hseen : (assign seenKeyVariable (.bool false)).print = "#set( $hasSeenSomeKeyArg = false )" := by
    decide +kernel
  have hnames : (assign "keyFieldNames" (.list (i.key.sortNames.map .str))).print =
      "#set( $keyFieldNames = [" ++ quotedItems i.key.sortNames ++ "] )" := by
    simp only [assign, print, render, Position.lead, renderAll_str, quotedItems, String.append_assoc,
      String.empty_append]
    rfl
  have hcall : ∀ message, "    " ++ ("$util.error(\"" ++ message ++ "\")") =
      "    $util.error(\"" ++ message ++ "\")" := by
    intro message
    simp only [String.append_assoc]
    rfl
  have herror : "    " ++ (ArgumentError.partialCompositeKey m i.name).call false =
      "    $util.error(\"" ++ i.refusal m.gerund ++ "\")" := hcall _
  have hstart : startMark ("Validate " ++ m.name ++ " mutation for @index " ++ singleQuoted i.name) =
      "## [Start] Validate " ++ m.name ++ " mutation for @index '" ++ i.name ++ "'. **" := by
    simp only [startMark, singleQuoted, String.append_assoc]
    rfl
  have hend : endMark ("Validate " ++ m.name ++ " mutation for @index " ++ singleQuoted i.name) =
      "## [End] Validate " ++ m.name ++ " mutation for @index '" ++ i.name ++ "'. **" := by
    simp only [endMark, singleQuoted, String.append_assoc]
    rfl
  rw [validateIndexTemplate, if_neg (by simp [h]), printSteps_eq _ (List.cons_ne_nil _ _), hstart, hend]
  simp only [List.map_cons, List.map_nil, hseen, hnames, print_seenLoop, print_missingLoop, herror]
  simp only [Index.validateText, joinWith, List.cons_append, List.nil_append, String.append_assoc]

/-! ## the choice among keys -/

/-- A key is registered under its name. -/
def SyncEntry.registrationText (e : SyncEntry) : String := joinWith "\n" [
  "## [Start] Set query expression for @key. **",
  "$util.qr($QueryMap.put('" ++ joinWith "+" e.key.names ++ "' , '" ++ e.name ++ "'))",
  "$util.qr($PkMap.put('" ++ e.key.partition.name ++ "' , '" ++ e.name ++ "'))",
  "$util.qr($SkMap.put(\"" ++ e.name ++ "\", [" ++ quotedItems e.key.sortNames ++ "]))",
  "## [End] Set query expression for @key. **"]

theorem print_syncRegistration (e : SyncEntry) : (syncRegistration e.name e.key).print = e.registrationText := by
  have hsort : render .statement "" (perform "SkMap.put" [.str e.name, .list (e.key.sortNames.map .str)]) =
      "$util.qr($SkMap.put(\"" ++ e.name ++ "\", [" ++ quotedItems e.key.sortNames ++ "]))" := by
    simp only [perform, invoke, render, renderAll, joinWith, Position.lead, renderAll_str, quotedItems,
      String.append_assoc, String.empty_append]
    rfl
  simp only [syncRegistration, print, render, renderAll, hsort, Position.lead, String.empty_append]
  rfl

/-- The registrations of keys stand between the set-up of the maps and the matching of the filter. -/
def syncText (registrations : String) : String :=
  syncSetup.print ++ "\n" ++ registrations ++ "\n" ++ matchFilter.print ++ "\n" ++ syncPartition.print ++ "\n" ++
    syncSort.print ++ "\n" ++ syncQuery.print ++ "\n"

theorem syncTemplate_eq (entries : List SyncEntry) :
    syncTemplate (registrationsText entries) = syncText (joinWith "\n" (entries.map (·.registrationText))) := by
  simp only [← print_syncRegistration]
  simp [syncTemplate, syncText, linesTemplate, registrationsText, joinWith, String.append_assoc]

/-! ## updates -/

/-- An update sets what is given and not in the key. An attribute goes by the name that is stashed for it, or else by
its own: the name stands behind `#` for the attribute, and behind `:` for its value. -/
def updateText : String := joinWith "\n" [
  "## [Start] Update Request template. **",
  "#set( $mergedValues = $util.defaultIfNull($ctx.stash.defaultValues, \x7b\x7d) )",
  "$util.qr($mergedValues.putAll($util.defaultIfNull($ctx.args.input, \x7b\x7d)))",
  "#if( $ctx.stash.metadata.modelObjectKey )",
  "  #set( $Key = $ctx.stash.metadata.modelObjectKey )",
  "#else",
  "  #set( $Key = \x7b",
  "    \"id\": $util.dynamodb.toDynamoDB($mergedValues.id)",
  "  \x7d )",
  "#end",
  "#set( $expSet = [] )",
  "#set( $expNames = \x7b\x7d )",
  "#set( $expValues = \x7b\x7d )",
  "#foreach( $entry in $mergedValues.entrySet() )",
  "  #if( !$Key.containsKey($entry.key) )",
  "    #set( $entryName = " ++
    "$util.defaultIfNull($ctx.stash.metadata.dynamodbNameOverrideMap.get($entry.key), $entry.key) )",
  "    $util.qr($expSet.add(\"#$entryName = :$entryName\"))",
  "    $util.qr($expNames.put(\"#$entryName\", $entry.key))",
  "    $util.qr($expValues.put(\":$entryName\", $util.dynamodb.toDynamoDB($entry.value)))",
  "  #end",
  "#end",
  "#set( $expression = \"SET\" )",
  "#foreach( $assignment in $expSet )",
  "  #set( $expression = \"$expression $assignment\" )",
  "  #if( $foreach.hasNext ) #set( $expression = \"$expression,\" ) #end",
  "#end",
  "#set( $UpdateItem = \x7b",
  "  \"version\": \"2018-05-29\",",
  "  \"operation\": \"UpdateItem\",",
  "  \"key\": $Key,",
  "  \"update\": \x7b",
  "    \"expression\": \"$expression\",",
  "    \"expressionNames\": $expNames,",
  "    \"expressionValues\": $expValues",
  "  \x7d",
  "\x7d )",
  "$util.toJson($UpdateItem)",
  "## [End] Update Request template. **"]

theorem updateRequest_eq : updateRequest = updateText := by decide +kernel

/-! ## renamed fields -/

/-- The renames are stashed: each field under its name in the schema, with the name it is stored under. -/
def FieldMap.stashText (m : FieldMap) : String := joinWith "\n" [
  "## [Start] Set field mapping. **",
  "$util.qr($ctx.stash.put(\"fieldMap\", \x7b\n" ++
    joinWith ",\n" (m.fields.map fun f => "  \"" ++ f.current ++ "\": \"" ++ f.stored ++ "\"") ++ "\n\x7d))",
  "\x7b\x7d",
  "## [End] Set field mapping. **"]

theorem fieldMappingTemplate_eq {m : FieldMap} (h : m.fields ≠ []) : fieldMappingTemplate m = m.stashText := by
  have hfields : renderAttributes tab (m.fields.map fun f => (f.current, .str f.stored)) =
      m.fields.map fun f => "  \"" ++ f.current ++ "\": \"" ++ f.stored ++ "\"" := by
    induction m.fields with
    | nil => rfl
    | cons f fields ih =>
      rw [List.map_cons, renderAttributes, ih, List.map_cons]
      simp only [render, Position.lead, tab, String.append_assoc, String.empty_append]
      rfl
  obtain ⟨f, rest, hcons⟩ := List.exists_cons_of_ne_nil h
  have hput : (perform "ctx.stash.put"
      [.str "fieldMap", .obj (m.fields.map fun f => (f.current, .str f.stored))]).print =
      "$util.qr($ctx.stash.put(\"fieldMap\", \x7b\n" ++
        joinWith ",\n" (m.fields.map fun f => "  \"" ++ f.current ++ "\": \"" ++ f.stored ++ "\"") ++ "\n\x7d))" := by
    rw [← hfields, hcons]
    simp only [print, perform, invoke, List.map_cons, render, renderAll, joinWith, Position.lead, String.append_assoc,
      String.empty_append]
    rfl
  rw [fieldMappingTemplate, printSteps_eq _ (List.cons_ne_nil _ _), List.map_cons, hput]
  rfl

end ModelApi
