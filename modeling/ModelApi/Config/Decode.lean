import ModelApi.Config.Basic
import ModelApi.Json.Decode
import ModelApi.Json.Scanner

/-!
# Reading configurations

Every field of a configuration has a default, and unknown fields are skipped. A strategy is read in two steps: its tag
`dbType` decides the kind wherever it stands, while the other members are put aside; then they are read as that kind.
-/

namespace ModelApi.Decode

/-! ## relational databases -/

/-- Connection details as far as they were read. -/
structure PartialConnection where
  hostname : Option String := none
  port : Option String := none
  username : Option String := none
  password : Option String := none
  databaseName : Option String := none

def connection : Shape PartialConnection Connection where
  name := "SqlModelDataSourceDbConnectionConfig"
  strict := false
  start := {}
  fields := [
    .ofText "hostnameSsmPath" fun s v => { s with hostname := some v },
    .ofText "portSsmPath" fun s v => { s with port := some v },
    .ofText "usernameSsmPath" fun s v => { s with username := some v },
    .ofText "passwordSsmPath" fun s v => { s with password := some v },
    .ofText "databaseNameSsmPath" fun s v => { s with databaseName := some v }]
  finish problem s := do
    let hostname ← needed problem 0 "hostnameSsmPath" s.hostname
    let port ← needed problem 1 "portSsmPath" s.port
    let username ← needed problem 2 "usernameSsmPath" s.username
    let password ← needed problem 3 "passwordSsmPath" s.password
    let databaseName ← needed problem 4 "databaseNameSsmPath" s.databaseName
    .ok { hostname, port, username, password, databaseName }

/-- A subnet as far as it was read. -/
structure PartialSubnet where
  subnetId : Option String := none
  availabilityZone : Option String := none

def subnet : Shape PartialSubnet Subnet where
  name := "SubnetAvailabilityZone"
  strict := false
  start := {}
  fields := [
    .ofText "subnetId" fun s v => { s with subnetId := some v },
    .ofText "availabilityZone" fun s v => { s with availabilityZone := some v }]
  finish problem s := do
    let subnetId ← needed problem 0 "subnetId" s.subnetId
    let availabilityZone ← needed problem 1 "availabilityZone" s.availabilityZone
    .ok { subnetId, availabilityZone }

/-- A network as far as it was read. -/
structure PartialVpc where
  vpcId : Option String := none
  securityGroupIds : Option (List String) := none
  subnets : Option (List Subnet) := none

def vpc : Shape PartialVpc Vpc where
  name := "VpcConfig"
  strict := false
  start := {}
  fields := [
    .ofText "vpcId" fun s v => { s with vpcId := some v },
    .of "securityGroupIds" (fun _ => items text) fun s v => { s with securityGroupIds := some v },
    .of "subnetAvailabilityZoneConfig" (fun source => items (subnet.decode source)) fun s v =>
      { s with subnets := some v }]
  finish problem s := do
    let vpcId ← needed problem 0 "vpcId" s.vpcId
    let securityGroupIds ← needed problem 1 "securityGroupIds" s.securityGroupIds
    let subnets ← needed problem 2 "subnetAvailabilityZoneConfig" s.subnets
    .ok { vpcId, securityGroupIds, subnets }

def concurrency : Shape (Option UInt32) UInt32 where
  name := "ProvisionedConcurrencyConfig"
  strict := false
  start := none
  fields := [.of "provisionedConcurrentExecutions" (fun _ => word32) fun _ v => some v]
  finish problem s := needed problem 0 "provisionedConcurrentExecutions" s

/-- A relational database as far as it was read. -/
structure PartialSql where
  name : Option String := none
  connection : Option Connection := none
  vpc : Option Vpc := none
  statements : OrderedMap String String := .empty
  concurrency : Option UInt32 := none

def sqlSource : Shape PartialSql SqlSource where
  name := "SqlModelDataSourceStrategy"
  strict := false
  start := {}
  fields := [
    .ofText "name" fun s v => { s with name := some v },
    .of "dbConnectionConfig" (fun source => connection.decode source) fun s v => { s with connection := some v },
    .of "vpcConfiguration" (fun source => optional (vpc.decode source)) fun s v => { s with vpc := v },
    .of "customSqlStatements" (fun _ => dictionary text) fun s v => { s with statements := v },
    .of "sqlLambdaProvisionedConcurrencyConfig" (fun source => optional (concurrency.decode source)) fun s v =>
      { s with concurrency := v }]
  finish problem s := do
    let name ← needed problem 0 "name" s.name
    let connection ← needed problem 1 "dbConnectionConfig" s.connection
    .ok { name, connection, vpc := s.vpc, statements := s.statements, concurrency := s.concurrency }

/-! ## strategies -/

def provisioning (source : Source) : Draft → Except Problem Provisioning :=
  choice [("DEFAULT", .direct), ("AMPLIFY_TABLE", .custom)] source

def tableSource : Shape Provisioning Provisioning where
  name := "Dynamodb"
  strict := false
  start := .direct
  fields := [.of "provisionStrategy" provisioning fun _ v => v]
  finish _ s := .ok s

/-- The member that says which kind a strategy is of. -/
def tagName : String := "dbType"

/-- The kind that a tag names. -/
def tagged (d : Draft) : Except Problem DbType := do
  let name ← textAs "variant identifier" d
  named DbType.tagged name

/-- Reads all of what is put aside. Only text can have a fault there, and only in text nesting is limited. -/
def putAside (source : Source) (fault : Option Fault) : Except Problem Unit :=
  if source = .text then refuse fault else .ok ()

/-- The tag among members, and the other members in order. Members that are put aside lie inside `depth` arrays and
objects. -/
def splitTag (source : Source) (depth : Nat) (tag : Option DbType) :
    List (Option String × Draft) → Except Problem (Option DbType × List (Option String × Draft))
  | [] => .ok (tag, [])
  | (none, _) :: _ => .error (.fault .malformed)
  | (some name, d) :: rest =>
    if name = tagName then
      match tag with
      | some _ => .error (.duplicateField tagName)
      | none => do
        let t ← tagged d
        splitTag source depth (some t) rest
    else do
      putAside source (d.readFault depth)
      let (tag, others) ← splitTag source depth tag rest
      .ok (tag, (some name, d) :: others)

/-- A strategy of a known kind, from the rest of its members. -/
def strategyOf (kind : DbType) (d : Draft) : Except Problem Strategy :=
  match kind with
  | .dynamodb => (tableSource.decode .buffer d).map .dynamodb
  | .mysql => (sqlSource.decode .buffer d).map .mysql
  | .postgres => (sqlSource.decode .buffer d).map .postgres

/-- A strategy inside `depth` arrays and objects. -/
def strategy (depth : Nat) (source : Source) : Draft → Except Problem Strategy
  | .obj members stop => do
    let (tag, others) ← splitTag source (depth + 1) none members
    refuse (stop.map (·.read))
    match tag with
    | none => .error (.missingField tagName)
    | some kind => strategyOf kind (.obj others none)
  | .arr [] stop => do
    refuse stop
    .error (.missingField tagName)
  | .arr (d :: rest) stop => do
    let kind ← tagged d
    putAside source (Draft.readItemsFault (depth + 1) rest stop)
    strategyOf kind (.arr rest none)
  | d => .error (mismatch "internally tagged enum ModelDataSourceStrategy" d)

/-- The strategies of models, inside `depth` objects. -/
def dataSources (depth : Nat) (source : Source) : Draft → Except Problem DataSources :=
  dictionary (strategy (depth + 1) source)

/-! ## configurations -/

/-- A field strategy as far as it was read. -/
structure PartialCustomSql where
  root : Option SqlRoot := none
  fieldName : Option String := none
  strategy : Option Strategy := none

def customSql : Shape PartialCustomSql CustomSql where
  name := "CustomSqlDataSourceStrategy"
  strict := false
  start := {}
  fields := [
    .of "typeName" (choice [("Query", SqlRoot.query), ("Mutation", SqlRoot.mutation)]) fun s v =>
      { s with root := some v },
    .ofText "fieldName" fun s v => { s with fieldName := some v },
    .of "strategy" (strategy 3) fun s v => { s with strategy := some v }]
  finish problem s := do
    let root ← needed problem 0 "typeName" s.root
    let fieldName ← needed problem 1 "fieldName" s.fieldName
    let strategy ← needed problem 2 "strategy" s.strategy
    .ok { root, fieldName, strategy }

def parameters : Shape Parameters Parameters where
  name := "TransformParameters"
  strict := false
  start := {}
  fields := [
    .of "sandboxModeEnabled" (fun _ => flag) fun s v => { s with sandboxMode := v },
    .of "secondaryKeyAsGSI" (fun _ => flag) fun s v => { s with secondaryKeyAsGsi := v }]
  finish _ s := .ok s

def conflictHandler (source : Source) : Draft → Except Problem ConflictHandler := choice ConflictHandler.tagged source

def sync : Shape Sync Sync where
  name := "SyncConfig"
  strict := false
  start := {}
  fields := [
    .of "conflictHandler" conflictHandler fun s v => { s with conflictHandler := v },
    .of "deltaSyncTableTtl" (fun _ => word32) fun s v => { s with deltaTtl := v }]
  finish _ s := .ok s

def config : Shape Config Config where
  name := "TransformConfig"
  strict := false
  start := {}
  fields := [
    .of "parameters" (fun source => parameters.decode source) fun s v => { s with parameters := v },
    .of "sync" (fun source => optional (sync.decode source)) fun s v => { s with sync := v },
    .of "dataSources" (dataSources 1) fun s v => { s with dataSources := v },
    .of "defaultDataSource" (fun source => optional (strategy 1 source)) fun s v => { s with defaultDataSource := v },
    .of "customSqlDataSources" (fun source => items (customSql.decode source)) fun s v => { s with customSql := v },
    .of "sqlStatements" (fun _ => dictionary text) fun s v => { s with sqlStatements := v }]
  finish _ s := .ok s

end ModelApi.Decode

namespace ModelApi

/-- The configuration of a JSON value. -/
def Config.ofJson (v : Json) : Except Decode.Problem Config := Decode.config.decode .text (.ofJson v)

/-- The configuration that a JSON text writes. -/
def Config.ofJsonText (text : String) : Except Decode.Problem Config := do
  let page := Json.scan text
  let c ← Decode.config.decode .text page.draft
  Decode.refuse page.trailing
  .ok c

/-- The strategies of models that a JSON value gives. -/
def DataSources.ofJson (v : Json) : Except Decode.Problem DataSources := Decode.dataSources 0 .text (.ofJson v)

end ModelApi
