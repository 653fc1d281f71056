import ModelApi.Config.Basic

/-!
# Stacks

The tables and data sources that a compilation provisions, in the order in which they are created. Adding one under an
identifier that is taken replaces it in place.
-/

namespace ModelApi

/-- What a data source reads from. -/
inductive DataSourceKind where
  | table (id : String)
  | function (name : String) (dbType : DbType)
  deriving DecidableEq, Repr

/-- A data source that resolvers can use. -/
structure DataSource where
  name : String
  stackId : String
  kind : DataSourceKind
  deriving DecidableEq, Repr

/-- The data source that every relational resolver invokes, its function, and the stack that holds both. -/
def sqlDataSource : String := "SQLLambdaDataSource"
def sqlFunction : String := "SQLFunction"
def sqlStack : String := "SqlApiStack"

/-- Tables by resource identifier and data sources by name. -/
structure Stack where
  tables : OrderedMap String Table := .empty
  dataSources : OrderedMap String DataSource := .empty

namespace Stack

instance : Inhabited Stack := ⟨{}⟩

def addTable (s : Stack) (t : Table) : Stack := { s with tables := s.tables.insert t.id t }

def addDataSource (s : Stack) (d : DataSource) : Stack := { s with dataSources := s.dataSources.insert d.name d }

/-- Changes the table of a resource identifier. -/
def updateTable (s : Stack) (id : String) (f : Table → Table) : Stack := { s with tables := s.tables.update id f }

end Stack

/-! ## encodings -/

def DataSourceKind.toJson : DataSourceKind → Json
  | .table id => .obj [("type", .str "AMAZON_DYNAMODB"), ("table", .str id)]
  | .function name dbType =>
    .obj [("type", .str "AWS_LAMBDA"), ("functionName", .str name), ("dbType", .str dbType.tag)]

def DataSource.toJson (d : DataSource) : Json :=
  .obj [("name", .str d.name), ("stackId", .str d.stackId), ("kind", d.kind.toJson)]

def Stack.toJson (s : Stack) : Json :=
  .obj [("tables", .ofMapWith (·.toJson) s.tables), ("dataSources", .ofMapWith (·.toJson) s.dataSources)]

end ModelApi
