import ModelApi.Key.Basic
import ModelApi.Table.Resource

/-!
# Model tables

A table has a managed view (key, attribute definitions, secondary indexes) and a raw resource. Every change of the
managed view is copied to the resource at once: into its properties, or, for tables that a custom resource manages,
into overrides.
-/

namespace ModelApi

/-- How the table of a model is provisioned. -/
inductive Provisioning where
  /-- A table resource of its own. -/
  | direct
  /-- A table that a custom resource manages, configured through overrides. -/
  | custom
  deriving DecidableEq, Repr, Inhabited

namespace Provisioning

def tag : Provisioning → String
  | .direct => "DEFAULT"
  | .custom => "AMPLIFY_TABLE"

def resourceType : Provisioning → String
  | .direct => "AWS::DynamoDB::Table"
  | .custom => "Custom::AmplifyDynamoDBTable"

end Provisioning

/-- A key attribute with its type. -/
structure TableKey where
  name : String
  type : AttributeType
  deriving DecidableEq, Repr

def TableKey.definition (k : TableKey) : AttributeDef := ⟨k.name, k.type⟩

/-- An index with a partition key of its own. -/
structure GlobalIndex where
  name : String
  partition : TableKey
  sort : Option TableKey
  readCapacity : Json
  writeCapacity : Json

/-- An index that shares the partition key of its table. -/
structure LocalIndex where
  name : String
  sort : Option TableKey
  deriving DecidableEq, Repr

/-- A model table. -/
structure Table where
  id : String
  name : String
  stackId : String
  provisioning : Provisioning
  keySchema : List KeyElement
  attributes : List AttributeDef
  partitionKey : TableKey
  globalIndexes : List GlobalIndex
  localIndexes : List LocalIndex
  raw : RawTable

/-- The resource identifier of the table of a model. -/
def tableId (model : String) : String := model ++ "Table"

/-! ## parameters of the provider -/

/-- A reference to a parameter. -/
def parameter (name : String) : Json := .obj [("Ref", .str name)]

def readCapacityParameter : String := "DynamoDBModelTableReadIOPS"
def writeCapacityParameter : String := "DynamoDBModelTableWriteIOPS"
def onDemandCondition : String := "ShouldUsePayPerRequestBilling"

/-- All attributes are copied into an index. -/
def projection : String := "ALL"

/-- The throughput of a global index, unless the table is billed on demand. -/
def throughput : Json :=
  .obj [("Fn::If", .arr [.str onDemandCondition, parameter "AWS::NoValue",
    .obj [("ReadCapacityUnits", parameter readCapacityParameter),
      ("WriteCapacityUnits", parameter writeCapacityParameter)]])]

/-! ## what the resource states -/

def keySchemaJson (elements : List KeyElement) : Json := .arr (elements.map (·.toJson))

def attributesJson (attributes : List AttributeDef) : Json := .arr (attributes.map (·.toJson))

/-- The key of an index: a partition attribute and an optional sort attribute. -/
def indexElements (partition : String) (sort : Option TableKey) : List KeyElement :=
  ⟨partition, .hash⟩ :: (sort.toList.map fun k => ⟨k.name, .range⟩)

def projectionJson : Json := .obj [("projectionType", .str projection)]

/-- A global index as the resource states it. -/
def GlobalIndex.descriptor (i : GlobalIndex) : Json :=
  .obj [("indexName", .str i.name), ("keySchema", keySchemaJson (indexElements i.partition.name i.sort)),
    ("projection", projectionJson), ("provisionedThroughput", throughput)]

/-- A local index as the resource of a table with that partition key states it. -/
def LocalIndex.descriptor (partition : String) (i : LocalIndex) : Json :=
  .obj [("indexName", .str i.name), ("keySchema", keySchemaJson (indexElements partition i.sort)),
    ("projection", projectionJson)]

namespace RawTable

/-- Sets a property: directly, or by an override. -/
def setProperty (provisioning : Provisioning) (name : String) (value : Json) (raw : RawTable) : RawTable :=
  match provisioning with
  | .direct => { raw with properties := raw.properties.insert name value }
  | .custom => { raw with overrides := raw.overrides.insert ("Properties." ++ name) value }

/-- Adds an item to a list property, at a position that is its length so far. -/
def appendProperty (provisioning : Provisioning) (name : String) (position : Nat) (value : Json) (raw : RawTable) :
    RawTable :=
  match provisioning with
  | .direct =>
    let items := match raw.properties.get? name with
      | some (.arr items) => items
      | _ => []
    { raw with properties := raw.properties.insert name (.arr (items ++ [value])) }
  | .custom =>
    { raw with overrides := raw.overrides.insert ("Properties." ++ name ++ "." ++ toString position) value }

end RawTable

/-! ## tables and their changes -/

/-- Adds a definition unless its name is defined already. -/
def register (attributes : List AttributeDef) (a : AttributeDef) : List AttributeDef :=
  if attributes.any (·.name == a.name) then attributes else attributes ++ [a]

/-- Adds definitions one after the other. -/
def registerAll (attributes : List AttributeDef) (added : List AttributeDef) : List AttributeDef :=
  added.foldl register attributes

namespace Table

/-- A table keyed by a string `id`, as every model starts out. -/
def new (model name : String) (provisioning : Provisioning) : Table :=
  let keySchema : List KeyElement := [⟨"id", .hash⟩]
  let attributes : List AttributeDef := [⟨"id", .s⟩]
  { id := tableId model, name, stackId := model, provisioning, keySchema, attributes, partitionKey := ⟨"id", .s⟩,
    globalIndexes := [], localIndexes := [],
    raw := {
      resourceType := provisioning.resourceType
      properties := .ofList [("tableName", .str name), ("keySchema", keySchemaJson keySchema),
        ("attributeDefinitions", attributesJson attributes)]
      overrides := .empty } }

/-- Copies the attribute definitions to the resource. -/
def syncAttributes (t : Table) : Table :=
  { t with raw := t.raw.setProperty t.provisioning "attributeDefinitions" (attributesJson t.attributes) }

/-- Copies the key schema and the attribute definitions to the resource. -/
def syncKey (t : Table) : Table :=
  { t with raw := t.raw.setProperty t.provisioning "keySchema" (keySchemaJson t.keySchema) }.syncAttributes

/-- Copies all local indexes to the resource, with the present partition key. -/
def syncLocalIndexes (t : Table) : Table :=
  let indexes := t.localIndexes.map (·.descriptor t.partitionKey.name)
  { t with raw := t.raw.setProperty t.provisioning "localSecondaryIndexes" (.arr indexes) }

/-- The partition attribute of a key; `id` when the key names none. -/
def partitionOf (keySchema : List KeyElement) : String :=
  match keySchema.find? (·.role == .hash) with
  | some e => e.name
  | none => "id"

/-- The type that definitions give to an attribute; a string when they do not mention it. -/
def typeIn (attributes : List AttributeDef) (name : String) : AttributeType :=
  match attributes.find? (·.name == name) with
  | some a => a.type
  | none => .s

/-- Swaps the primary key. The definitions of the attributes of the old key go away unless the new key brings them. -/
def replaceKey (keySchema : List KeyElement) (attributes : List AttributeDef) (t : Table) : Table :=
  let kept := t.attributes.filter fun a => !t.keySchema.any (·.name == a.name)
  let partition := partitionOf keySchema
  { t with
    keySchema
    attributes := registerAll kept attributes
    partitionKey := ⟨partition, typeIn attributes partition⟩ }.syncKey

/-- Adds a global index and copies it to the resource. -/
def addGlobalIndex (index : GlobalIndex) (t : Table) : Table :=
  let t := { t with
    attributes := registerAll t.attributes (index.partition.definition :: index.sort.toList.map TableKey.definition) }
  let t := t.syncAttributes
  { t with
    globalIndexes := t.globalIndexes ++ [index]
    raw := t.raw.appendProperty t.provisioning "globalSecondaryIndexes" t.globalIndexes.length index.descriptor }

/-- Adds a local index and copies all local indexes to the resource. -/
def addLocalIndex (index : LocalIndex) (t : Table) : Table :=
  { t with
    attributes := registerAll t.attributes (index.sort.toList.map TableKey.definition)
    localIndexes := t.localIndexes ++ [index] }.syncAttributes.syncLocalIndexes

end Table

/-- A change of a table. -/
inductive TableChange where
  | replaceKey (keySchema : List KeyElement) (attributes : List AttributeDef)
  | addGlobal (index : GlobalIndex)
  | addLocal (index : LocalIndex)

/-- The table after a change. -/
def Table.apply (t : Table) : TableChange → Table
  | .replaceKey keySchema attributes => t.replaceKey keySchema attributes
  | .addGlobal index => t.addGlobalIndex index
  | .addLocal index => t.addLocalIndex index

/-! ## encodings -/

def TableKey.toJson (k : TableKey) : Json := .obj [("name", .str k.name), ("type", .str k.type.tag)]

/-- A key that may be missing. -/
def sortKeyJson : Option TableKey → Json
  | some k => k.toJson
  | none => .null

def GlobalIndex.toJson (i : GlobalIndex) : Json :=
  .obj [("indexName", .str i.name), ("projectionType", .str projection), ("partitionKey", i.partition.toJson),
    ("sortKey", sortKeyJson i.sort), ("readCapacity", i.readCapacity), ("writeCapacity", i.writeCapacity)]

def LocalIndex.toJson (i : LocalIndex) : Json :=
  .obj [("indexName", .str i.name), ("projectionType", .str projection), ("sortKey", sortKeyJson i.sort)]

def Table.toJson (t : Table) : Json :=
  .obj [("resourceId", .str t.id), ("tableName", .str t.name), ("stackId", .str t.stackId),
    ("provisionStrategy", .str t.provisioning.tag), ("keySchema", keySchemaJson t.keySchema),
    ("attributeDefinitions", attributesJson t.attributes), ("partitionKey", t.partitionKey.toJson),
    ("globalSecondaryIndexes", .arr (t.globalIndexes.map (·.toJson))),
    ("localSecondaryIndexes", .arr (t.localIndexes.map (·.toJson))), ("raw", t.raw.toJson)]

end ModelApi
