import ModelApi.Json.Decode
import ModelApi.Text.Reader

/-!
# Misuse of directives

Why a directive cannot be applied where it stands, and the wording of it.
-/

namespace ModelApi

/-- The directives that point models and fields at other names. -/
inductive RenameKind where
  | mapsTo | refersTo
  deriving DecidableEq, Repr

def RenameKind.directive : RenameKind → String
  | .mapsTo => "mapsTo"
  | .refersTo => "refersTo"

/-- The keys that directives declare. -/
inductive KeyKind where
  | primary
  | index (name : String)
  deriving DecidableEq, Repr

def KeyKind.message : KeyKind → String
  | .primary => "the primary key"
  | .index name => "index '" ++ name ++ "'"

/-- What is wrong with a directive. -/
inductive Misuse where
  /-- Its arguments cannot be decoded. -/
  | arguments (directive : String) (problem : Decode.Problem)
  | modelNotOnObject
  | modelTwice (type : String)
  | keyNotOnField (directive : String)
  | keyNotOnModel (directive : String)
  | secondPrimaryKey (type : String)
  | unknownKeyField (field type : String) (key : KeyKind)
  /-- A list or an object takes part in a key. -/
  | compositeKeyField (field type : String)
  | nullablePrimaryKey (type : String)
  | duplicateIndex (name type : String)
  | sqlNotOnField (type : String)
  | sqlNotOnRoot (type field : String)
  | sqlStatementAndReference (type field : String)
  | sqlBlankStatement (type field : String)
  | sqlUnknownReference (type field reference : String)
  | sqlWithoutArgument (type field : String)
  | renameNotOnModel (kind : RenameKind) (type : String)
  | mapsToOnField
  | refersToOnTable
  deriving DecidableEq, Repr

namespace Misuse

/-- Where to look for a misused `@sql`. -/
def place (type field : String) : String := "Check type \"" ++ type ++ "\" and field \"" ++ field ++ "\"."

def message : Misuse → String
  | .arguments directive problem => "Unable to parse @" ++ directive ++ ": " ++ problem.message
  | .modelNotOnObject => "The @model directive may only be added to object definitions."
  | .modelTwice type => "The @model directive may only be added once to type '" ++ type ++ "'."
  | .keyNotOnField directive => "The @" ++ directive ++ " directive may only be added to field definitions."
  | .keyNotOnModel directive =>
    "The @" ++ directive ++ " directive may only be added to object definitions annotated with @model."
  | .secondPrimaryKey type => "You may only supply one primary key on type '" ++ type ++ "'."
  | .unknownKeyField field type key =>
    "Can't find field '" ++ field ++ "' in " ++ type ++ ", but it was specified in " ++ key.message ++ "."
  | .compositeKeyField field type =>
    "The key field '" ++ field ++ "' on type '" ++ type ++ "' must be a scalar or an enum."
  | .nullablePrimaryKey type => "The primary key on type '" ++ type ++ "' must reference non-null fields."
  | .duplicateIndex name type => "You may only supply one index named '" ++ name ++ "' on type '" ++ type ++ "'."
  | .sqlNotOnField type =>
    "@sql directive may only be added to field definitions. Check type \"" ++ type ++ "\"."
  | .sqlNotOnRoot type field =>
    "@sql directive can only be used on Query or Mutation types. " ++ place type field
  | .sqlStatementAndReference type field =>
    "@sql directive can have either 'statement' or 'reference' argument but not both. " ++ place type field
  | .sqlBlankStatement type field => "@sql directive 'statement' argument must not be empty. " ++ place type field
  | .sqlUnknownReference type field reference =>
    "@sql directive 'reference' argument must be a valid custom query name. " ++ place type field ++
      " The custom query \"" ++ reference ++ "\" does not exist in \"sql-statements\" directory."
  | .sqlWithoutArgument type field =>
    "@sql directive must have either a 'statement' or a 'reference' argument. " ++ place type field
  | .renameNotOnModel kind type =>
    "@" ++ kind.directive ++ " is only supported on @model types. Check type \"" ++ type ++ "\"."
  | .mapsToOnField => "@mapsTo may only be added to object definitions."
  | .refersToOnTable => "@refersTo is not supported on DynamoDB models."

end Misuse

/-- A misused directive and where it stands. -/
structure RuleError where
  pos : Text.Pos
  misuse : Misuse
  deriving DecidableEq, Repr

/-- The message of an error, led by its place. -/
def RuleError.message (e : RuleError) : String :=
  "[" ++ toString e.pos.line ++ ":" ++ toString e.pos.column ++ "] " ++ e.misuse.message

end ModelApi
