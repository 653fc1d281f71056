import ModelApi.Template.Basic
import ModelApi.Text.Join

/-!
# Printing templates

An expression prints in one of two positions. In statement position every line starts with the indentation; in value
position the first line is not indented. A statement that stands where a value is expected prints without indentation.
-/

namespace ModelApi

open Text (joinWith)

/-- Where an expression prints. -/
inductive Position where
  | statement | value
  deriving DecidableEq, Repr

/-- What stands before a value: the indentation in statement position, nothing in value position. -/
def Position.lead : Position → String → String
  | .statement, indent => indent
  | .value, _ => ""

namespace Expr

/-- One level of indentation. -/
def tab : String := "  "

/-- The line that opens a named block. -/
def startMark (name : String) : String := "## [Start] " ++ name ++ ". **"

/-- The line that closes a named block. -/
def endMark (name : String) : String := "## [End] " ++ name ++ ". **"

mutual
/-- The text of an expression at a position with an indentation. -/
def render (p : Position) (indent : String) : Expr → String
  | .set target value =>
    let i := p.lead indent
    i ++ "#set( " ++ render .value i target ++ " = " ++ render .value i value ++ " )"
  | .ifThen true condition body =>
    let i := p.lead indent
    i ++ "#if( " ++ render .value i condition ++ " ) " ++ render .statement "" body ++ " #end"
  | .ifThen false condition body =>
    let i := p.lead indent
    i ++ "#if( " ++ render .value i condition ++ " )\n" ++ render .statement (i ++ tab) body ++ "\n" ++ i ++ "#end"
  | .ifElse condition yes no =>
    let i := p.lead indent
    i ++ "#if( " ++ render .value i condition ++ " )\n" ++ render .statement (i ++ tab) yes ++ "\n" ++ i ++ "#else\n" ++
      render .statement (i ++ tab) no ++ "\n" ++ i ++ "#end"
  | .forEach item collection body =>
    let i := p.lead indent
    i ++ "#foreach( " ++ render .value i item ++ " in " ++ render .value i collection ++ " )\n" ++
      joinWith "\n" (renderAll .statement (i ++ tab) body) ++ "\n" ++ i ++ "#end"
  | .compound steps => joinWith "\n" (renderAll .statement (p.lead indent) steps)
  | .block name steps =>
    let i := p.lead indent
    joinWith "\n" ((i ++ startMark name) :: (renderAll .statement i steps ++ [i ++ endMark name]))
  | .comment text => p.lead indent ++ "## " ++ text ++ " **"
  | .raw text => p.lead indent ++ text
  | .ref name => p.lead indent ++ "$" ++ name
  | .quiet e => p.lead indent ++ "$util.qr(" ++ render .value indent e ++ ")"
  | .str text => p.lead indent ++ "\"" ++ text ++ "\""
  | .int n => p.lead indent ++ toString n
  | .bool b => p.lead indent ++ (if b then "true" else "false")
  | .null => p.lead indent ++ "null"
  | .obj [] => p.lead indent ++ "\x7b\x7d"
  | .obj (a :: rest) =>
    p.lead indent ++ "\x7b\n" ++ joinWith ",\n" (renderAttributes (indent ++ tab) (a :: rest)) ++ "\n" ++
      indent ++ "\x7d"
  | .list items => p.lead indent ++ "[" ++ joinWith ", " (renderAll .value indent items) ++ "]"
  | .call method arguments =>
    p.lead indent ++ render .value indent method ++ "(" ++ joinWith ", " (renderAll .value indent arguments) ++ ")"
  | .and operands => p.lead indent ++ joinWith " && " (renderAll .value indent operands)
  | .or operands => p.lead indent ++ joinWith " || " (renderAll .value indent operands)
  | .parens e => p.lead indent ++ "(" ++ render .value indent e ++ ")"
  | .not e => p.lead indent ++ "!" ++ render .value indent e
  | .eq left right => p.lead indent ++ render .value indent left ++ " == " ++ render .value indent right
  | .ne left right => p.lead indent ++ render .value indent left ++ " != " ++ render .value indent right
  | .toJson e => p.lead indent ++ "$util.toJson(" ++ render .value indent e ++ ")"

/-- The texts of several expressions. -/
def renderAll (p : Position) (indent : String) : List Expr → List String
  | [] => []
  | e :: rest => render p indent e :: renderAll p indent rest

/-- The lines of an object's attributes. -/
def renderAttributes (indent : String) : List (String × Expr) → List String
  | [] => []
  | (key, e) :: rest =>
    (indent ++ "\"" ++ key ++ "\": " ++ render .value indent e) :: renderAttributes indent rest
end

/-- The text of a template. -/
def print (e : Expr) : String := render .statement "" e

/-- The text of a template between the marks of a named block. -/
def printBlock (name : String) (e : Expr) : String := startMark name ++ "\n" ++ e.print ++ "\n" ++ endMark name

/-- The printed statements, as one named block. -/
def printSteps (name : String) (steps : List Expr) : String := printBlock name (.compound steps)

end Expr

end ModelApi
