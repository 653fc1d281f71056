import ModelApi.Config.Basic

/-!
# Writing configurations

A configuration as a JSON value, with every field present. `Config.Decode` reads it back.
-/

namespace ModelApi

def Connection.toJson (c : Connection) : Json :=
  .obj [("hostnameSsmPath", .str c.hostname), ("portSsmPath", .str c.port), ("usernameSsmPath", .str c.username),
    ("passwordSsmPath", .str c.password), ("databaseNameSsmPath", .str c.databaseName)]

def Subnet.toJson (s : Subnet) : Json :=
  .obj [("subnetId", .str s.subnetId), ("availabilityZone", .str s.availabilityZone)]

def Vpc.toJson (v : Vpc) : Json :=
  .obj [("vpcId", .str v.vpcId), ("securityGroupIds", .strs v.securityGroupIds),
    ("subnetAvailabilityZoneConfig", .arr (v.subnets.map (·.toJson)))]

/-- Null for nothing, else what the encoder says. -/
def optionJson {α : Type} (f : α → Json) : Option α → Json
  | none => .null
  | some a => f a

def concurrencyJson (executions : UInt32) : Json := .obj [("provisionedConcurrentExecutions", .int executions.toNat)]

/-- The members of a relational strategy behind its tag. -/
def SqlSource.members (s : SqlSource) : List (String × Json) :=
  [("name", .str s.name), ("dbConnectionConfig", s.connection.toJson),
    ("vpcConfiguration", optionJson (·.toJson) s.vpc), ("customSqlStatements", .ofMapWith .str s.statements),
    ("sqlLambdaProvisionedConcurrencyConfig", optionJson concurrencyJson s.concurrency)]

def Strategy.toJson (s : Strategy) : Json :=
  .obj (("dbType", .str s.dbType.tag) ::
    match s with
    | .dynamodb p => [("provisionStrategy", .str p.tag)]
    | .mysql source | .postgres source => source.members)

def CustomSql.toJson (c : CustomSql) : Json :=
  .obj [("typeName", .str c.root.typeName), ("fieldName", .str c.fieldName), ("strategy", c.strategy.toJson)]

def Sync.toJson (s : Sync) : Json :=
  .obj [("conflictHandler", .str s.conflictHandler.tag), ("deltaSyncTableTtl", .int s.deltaTtl.toNat)]

def Parameters.toJson (p : Parameters) : Json :=
  .obj [("sandboxModeEnabled", .bool p.sandboxMode), ("secondaryKeyAsGSI", .bool p.secondaryKeyAsGsi)]

def Config.toJson (c : Config) : Json :=
  .obj [("parameters", c.parameters.toJson), ("sync", optionJson (·.toJson) c.sync),
    ("dataSources", .ofMapWith (·.toJson) c.dataSources),
    ("defaultDataSource", optionJson (·.toJson) c.defaultDataSource),
    ("customSqlDataSources", .arr (c.customSql.map (·.toJson))), ("sqlStatements", .ofMapWith .str c.sqlStatements)]

end ModelApi
