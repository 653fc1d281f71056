import ModelApi.Table.Basic

/-!
# Configurations

Everything a compilation needs besides the schema: parameters, sync settings, and for each model the strategy that says
where its data lives.
-/

namespace ModelApi

/-- The databases that can back a model. -/
inductive DbType where
  | dynamodb | mysql | postgres
  deriving DecidableEq, Repr, Inhabited

namespace DbType

def tag : DbType → String
  | .dynamodb => "DYNAMODB"
  | .mysql => "MYSQL"
  | .postgres => "POSTGRES"

/-- All database types, by their tags. -/
def tagged : List (String × DbType) := [("DYNAMODB", .dynamodb), ("MYSQL", .mysql), ("POSTGRES", .postgres)]

def ofTag? (tag : String) : Option DbType := tagged.lookup tag

/-- Whether the database is relational. -/
def isSql : DbType → Bool
  | .dynamodb => false
  | .mysql | .postgres => true

end DbType

/-- The parameter paths of the details of a database connection. -/
structure Connection where
  hostname : String
  port : String
  username : String
  password : String
  databaseName : String
  deriving DecidableEq, Repr

/-- A subnet and its availability zone. -/
structure Subnet where
  subnetId : String
  availabilityZone : String
  deriving DecidableEq, Repr

/-- The private network a database is reached in. -/
structure Vpc where
  vpcId : String
  securityGroupIds : List String
  subnets : List Subnet
  deriving DecidableEq, Repr

/-- How a relational database is reached, and the statements that come with it. -/
structure SqlSource where
  name : String
  connection : Connection
  vpc : Option Vpc
  statements : OrderedMap String String
  concurrency : Option UInt32
  deriving DecidableEq

/-- Where the data of a model lives. -/
inductive Strategy where
  | dynamodb (provisioning : Provisioning)
  | mysql (source : SqlSource)
  | postgres (source : SqlSource)
  deriving DecidableEq

namespace Strategy

/-- A table resource of its own. -/
def standard : Strategy := .dynamodb .direct

def dbType : Strategy → DbType
  | .dynamodb _ => .dynamodb
  | .mysql _ => .mysql
  | .postgres _ => .postgres

def isSql (s : Strategy) : Bool := s.dbType.isSql

/-- How tables of the strategy are provisioned; relational strategies have none. -/
def provisioning? : Strategy → Option Provisioning
  | .dynamodb p => some p
  | _ => none

/-- The relational database of the strategy. -/
def sql? : Strategy → Option SqlSource
  | .mysql s | .postgres s => some s
  | .dynamodb _ => none

end Strategy

/-- The strategy of each model. -/
abbrev DataSources := OrderedMap String Strategy

namespace DataSources

/-- Whether a model is known to be relational. -/
def isSqlModel (sources : DataSources) (model : String) : Bool := (sources.get? model).any (·.isSql)

/-- The relational models, in order. -/
def sqlModels (sources : DataSources) : List String := (sources.entries.filter (·.2.isSql)).map (·.1)

end DataSources

/-- The root types that can have fields backed by a statement of their own. -/
inductive SqlRoot where
  | query | mutation
  deriving DecidableEq, Repr, Inhabited

def SqlRoot.typeName : SqlRoot → String
  | .query => Schema.queryType
  | .mutation => Schema.mutationType

/-- The strategy of a field that is backed by a statement of its own. -/
structure CustomSql where
  root : SqlRoot
  fieldName : String
  strategy : Strategy
  deriving DecidableEq

/-- How conflicting writes are resolved. -/
inductive ConflictHandler where
  | automerge | optimisticConcurrency | lambda
  deriving DecidableEq, Repr, Inhabited

namespace ConflictHandler

def tag : ConflictHandler → String
  | .automerge => "AUTOMERGE"
  | .optimisticConcurrency => "OPTIMISTIC_CONCURRENCY"
  | .lambda => "LAMBDA"

/-- All handlers, by their tags. -/
def tagged : List (String × ConflictHandler) :=
  [("AUTOMERGE", .automerge), ("OPTIMISTIC_CONCURRENCY", .optimisticConcurrency), ("LAMBDA", .lambda)]

end ConflictHandler

/-- The settings of sync queries. -/
structure Sync where
  conflictHandler : ConflictHandler := .automerge
  /-- How long, in minutes, the delta table keeps its records. -/
  deltaTtl : UInt32 := 30
  deriving DecidableEq, Repr

/-- Switches of a compilation. -/
structure Parameters where
  /-- Lets requests with an API key through resolvers without authorization rules. -/
  sandboxMode : Bool := false
  /-- Makes every secondary index global, even where a local one would do. -/
  secondaryKeyAsGsi : Bool := true
  deriving DecidableEq, Repr

/-- A configuration. -/
structure Config where
  parameters : Parameters := {}
  /-- Enables conflict detection and the sync queries. -/
  sync : Option Sync := none
  /-- The strategies of particular models. -/
  dataSources : DataSources := .empty
  /-- The strategy of every other model; tables of their own when it is missing. -/
  defaultDataSource : Option Strategy := none
  customSql : List CustomSql := []
  /-- Statements that fields refer to by name. -/
  sqlStatements : OrderedMap String String := .empty
  deriving DecidableEq

namespace Config

instance : Inhabited Config := ⟨{}⟩

/-- Whether sync queries are generated. -/
def usesSync (c : Config) : Bool := c.sync.isSome

/-- The strategy of a model. -/
def strategyOf (c : Config) (model : String) : Strategy :=
  (c.dataSources.get? model).getD (c.defaultDataSource.getD .standard)

/-- The strategies of several models. -/
def resolve (c : Config) (models : List String) : DataSources := .ofList (models.map fun m => (m, c.strategyOf m))

/-- The relational databases that bring statements, in the order in which they are searched. -/
def sqlSources (c : Config) : List SqlSource :=
  (c.dataSources.values ++ c.defaultDataSource.toList ++ c.customSql.map (·.strategy)).filterMap (·.sql?)

/-- The statement of a name: from the configuration's own list, else from the first database that has it. -/
def statement? (c : Config) (name : String) : Option String :=
  match c.sqlStatements.get? name with
  | some s => some s
  | none => c.sqlSources.findSome? (·.statements.get? name)

/-- The first entry for a field that is backed by a statement of its own. -/
def customSql? (c : Config) (typeName fieldName : String) : Option CustomSql :=
  c.customSql.find? fun s => s.root.typeName == typeName && s.fieldName == fieldName

end Config

end ModelApi
