/-!
# Template expressions

The tree of a resolver template. Statements (`set`, `ifThen`, `ifElse`, `forEach`, `compound`, `block`, `comment`) print
on lines of their own; all other nodes are values. Texts are taken as they are: nothing is escaped.
-/

namespace ModelApi

/-- A template expression. -/
inductive Expr where
  /-- Text copied into the template. -/
  | raw (text : String)
  /-- A variable, without its leading dollar sign. -/
  | ref (name : String)
  /-- A value evaluated for its effect only. -/
  | quiet (e : Expr)
  | str (text : String)
  | int (n : Int)
  | bool (b : Bool)
  | null
  | obj (attributes : List (String × Expr))
  | list (items : List Expr)
  | set (target value : Expr)
  /-- A condition without alternative; the inline form stays on one line. -/
  | ifThen (inline : Bool) (condition body : Expr)
  | ifElse (condition yes no : Expr)
  | forEach (item collection : Expr) (body : List Expr)
  /-- Statements one after the other. -/
  | compound (steps : List Expr)
  /-- Statements between a start and an end mark. -/
  | block (name : String) (steps : List Expr)
  | call (method : Expr) (arguments : List Expr)
  | and (operands : List Expr)
  | or (operands : List Expr)
  | parens (e : Expr)
  | not (e : Expr)
  | eq (left right : Expr)
  | ne (left right : Expr)
  | toJson (e : Expr)
  | comment (text : String)
  deriving Inhabited

namespace Expr

/-- The version every request payload states. -/
def payloadVersion : Expr := .str "2018-05-29"

/-- An object without attributes. -/
def emptyObj : Expr := .obj []

/-- A list without items. -/
def emptyList : Expr := .list []

/-- A condition that prints over several lines. -/
def when (condition body : Expr) : Expr := .ifThen false condition body

/-- A condition that prints on one line. -/
def whenInline (condition body : Expr) : Expr := .ifThen true condition body

/-- A call of the method that a reference names. -/
def invoke (method : String) (arguments : List Expr) : Expr := .call (.ref method) arguments

/-- A call made for its effect only. -/
def perform (method : String) (arguments : List Expr) : Expr := .quiet (invoke method arguments)

/-- An assignment to a variable. -/
def assign (target : String) (value : Expr) : Expr := .set (.ref target) value

/-- The value, or `fallback` when it is null. -/
def orElse (value fallback : Expr) : Expr := invoke "util.defaultIfNull" [value, fallback]

end Expr

end ModelApi
