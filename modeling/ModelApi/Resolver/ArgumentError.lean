/-!
# Errors that templates raise

A generated template refuses arguments that do not go with a key. The wording may hold template variables, which are
filled in when the template runs.
-/

namespace ModelApi

/-- The mutations that check the sort key of an index. -/
inductive KeyMutation where
  | create | update
  deriving DecidableEq, Repr, Inhabited

namespace KeyMutation

def name : KeyMutation → String
  | .create => "create"
  | .update => "update"

def gerund : KeyMutation → String
  | .create => "creating"
  | .update => "updating"

end KeyMutation

/-- What is wrong with the arguments of a request. -/
inductive ArgumentError where
  /-- Some fields of a composite sort key are given and others are missing. -/
  | partialCompositeKey (mutation : KeyMutation) (index : String)
  | directionWithoutSortKey
  | directionWithoutPartitionKey (key : String)
  /-- A condition on the sort key without the partition key. -/
  | sortKeyAlone (key partition : String)
  deriving DecidableEq, Repr

namespace ArgumentError

def message : ArgumentError → String
  | .partialCompositeKey mutation index =>
    "When " ++ mutation.gerund ++ " any part of the composite sort key for @index '" ++ index ++
      "', you must provide all fields for the key. Missing key: '$keyFieldName'."
  | .directionWithoutSortKey => "sortDirection is not supported for List operations without a Sort key defined."
  | .directionWithoutPartitionKey key =>
    "When providing argument 'sortDirection' you must also provide argument '" ++ key ++ "'."
  | .sortKeyAlone key partition =>
    "When providing argument '" ++ key ++ "' you must also provide arguments " ++ partition

/-- The call that raises the error, with or without its type. -/
def call (e : ArgumentError) (typed : Bool) : String :=
  "$util.error(\"" ++ e.message ++ (if typed then "\", \"InvalidArgumentsError\")" else "\")")

end ArgumentError

end ModelApi
