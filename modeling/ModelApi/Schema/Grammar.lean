import ModelApi.Schema.Basic
import ModelApi.Json.Scanner
import ModelApi.Text.Reader

/-!
# The grammar of schema documents

A reader for the type system part of GraphQL. Blanks, commas and comments may stand between any two tokens. Keywords
need no boundary behind them: `typePost` reads as `type Post`, and an enum value cannot start like a literal name. Types
have no gaps inside.
-/

namespace ModelApi.Schema.Grammar

open Text (Pos Cursor Reader)
open Text.Reader

/-! ## blanks and comments -/

def isLineEnd (c : Char) : Bool := c == '\n' || c == '\r'

/-- The characters that may stand between tokens. -/
def isGap (c : Char) : Bool := c == ' ' || c == ',' || c == '\t' || c.toNat == 0xFEFF || isLineEnd c

/-- Drops blanks and comments; inside a comment everything goes up to the end of the line. -/
def dropGaps (inComment : Bool) (p : Pos) : List Char → Cursor
  | [] => ⟨[], p⟩
  | c :: cs =>
    if isLineEnd c then dropGaps false (p.after c) cs
    else if inComment || isGap c then dropGaps inComment (p.after c) cs
    else if c = '#' then dropGaps true (p.after c) cs
    else ⟨c :: cs, p⟩

/-- Moves to the next token. -/
def gap : Reader Unit := fun c => some ((), dropGaps false c.pos c.rest)

/-- Something behind a gap. -/
def next {α : Type} (r : Reader α) : Reader α := do gap; r

/-- A keyword or a punctuation mark behind a gap. -/
def mark (s : String) : Reader Unit := next (word s)

/-- Something behind a gap that may be missing. -/
def nextMaybe {α : Type} (r : Reader α) : Reader (Option α) := maybe (next r)

/-- Repetitions, each behind a gap. -/
def nextMany {α : Type} (r : Reader α) : Reader (List α) := many (next r)

/-- At least one repetition, each behind a gap. -/
def nextSome {α : Type} (r : Reader α) : Reader (List α) := do
  let a ← next r
  let as ← nextMany r
  return a :: as

/-! ## names, types and strings -/

def isNameStart (c : Char) : Bool := c.isAlpha || c == '_'
def isNameChar (c : Char) : Bool := c.isAlphanum || c == '_'

/-- A name. -/
def name : Reader String := do
  let c ← one isNameStart
  let cs ← many (one isNameChar)
  return String.ofList (c :: cs)

/-- A type, without gaps inside. -/
def typeRefFuel : Nat → Reader TypeRef
  | 0 => fun _ => none
  | fuel + 1 => do
    let named : Reader (Bool → TypeRef) := do return .named (← name)
    let listed : Reader (Bool → TypeRef) := do
      word "["
      let item ← typeRefFuel fuel
      word "]"
      return .list item
    let t ← either named listed
    let bang ← maybe (word "!")
    return t bang.isNone

def typeRef : Reader TypeRef := fun c => typeRefFuel (c.rest.length + 1) c

/-- A code point of four hexadecimal digits that is no surrogate. -/
def unicodeEscape : Reader Char := fun c =>
  match Json.scanUnit c.rest with
  | .ok (n, rest) =>
    if Json.isHighSurrogate n || Json.isLowSurrogate n then none
    else some (Char.ofNat n, ⟨rest, (c.rest.take 4).foldl Pos.after c.pos⟩)
  | .error _ => none

/-- A character of a string in single quotes. -/
def stringChar : Reader Char :=
  firstOf [
    one fun c => c != '"' && c != '\\' && !isLineEnd c,
    do word "\\u"; unicodeEscape,
    do
      word "\\"
      let e ← one fun c => (Json.simpleEscape c).isSome
      return (Json.simpleEscape e).getD e]

/-- A character of a block string; an escaped delimiter keeps its backslash. -/
def blockChars : Reader (List Char) :=
  either (do word "\\\"\"\""; return ['\\', '"', '"', '"'])
    (do absent (word "\"\"\""); let c ← one fun _ => true; return [c])

/-- The lines of a text. A carriage return together with a line feed ends one line. -/
def lines : List Char → List (List Char)
  | [] => [[]]
  | '\r' :: '\n' :: cs => [] :: lines cs
  | c :: cs =>
    if isLineEnd c then [] :: lines cs
    else match lines cs with
      | [] => [[c]]
      | l :: ls => (c :: l) :: ls

def isIndent (c : Char) : Bool := c == ' ' || c == '\t'

/-- The least indentation of the lines with anything else on them. -/
def commonIndent (ls : List (List Char)) : Nat :=
  let indents := ls.filterMap fun l => if l.all isIndent then none else some (l.takeWhile isIndent).length
  indents.min?.getD 0

/-- The text of a block string: the common indentation goes from all lines but the first, and lines without content go
from both ends. -/
def blockText (raw : List Char) : String :=
  let ls := lines raw
  let indent := commonIndent (ls.drop 1)
  let cut := ls.take 1 ++ (ls.drop 1).map fun l => if l.length < indent then l else l.drop indent
  let blank : List Char → Bool := fun l => l.all isIndent
  let kept := ((cut.dropWhile blank).reverse.dropWhile blank).reverse
  Text.joinWith "\n" (kept.map String.ofList)

/-- A string, in single or in threefold quotes. -/
def string : Reader String :=
  either
    (do
      word "\"\"\""
      let parts ← many blockChars
      word "\"\"\""
      return blockText parts.flatten)
    (do
      word "\""
      let cs ← many stringChar
      word "\""
      return String.ofList cs)

/-! ## values -/

def digits1 : Reader (List Char) := do
  let c ← one Char.isDigit
  let cs ← many (one Char.isDigit)
  return c :: cs

/-- The digits of a whole number, without needless zeros in front. -/
def wholeDigits : Reader (List Char) :=
  either (do let c ← one (· == '0'); return [c])
    (do
      let c ← one fun c => c.isDigit && c != '0'
      let cs ← many (one Char.isDigit)
      return c :: cs)

def fraction : Reader (List Char) := do word "."; digits1

def exponent : Reader Int := do
  let _ ← one fun c => c == 'e' || c == 'E'
  let sign ← maybe (one fun c => c == '+' || c == '-')
  let ds ← digits1
  let e : Int := Number.ofDigits ds
  return if sign == some '-' then -e else e

/-- A number; it may not run into a name. -/
def number : Reader (Option Number) := do
  let sign ← maybe (word "-")
  let whole ← wholeDigits
  let f ← maybe fraction
  let e ← maybe exponent
  absent (one isNameStart)
  return Number.ofParts sign.isSome whole f e

def boolean : Reader Bool := either (do word "true"; return true) (do word "false"; return false)

/-- A name that starts like none of the literal names. -/
def enumName : Reader String := do
  absent (either (do let _ ← boolean; return ()) (word "null"))
  name

/-- A value. -/
def constValueFuel : Nat → Reader ConstValue
  | 0 => fun _ => none
  | fuel + 1 =>
    firstOf [
      do return .num (← number),
      do return .str (← string),
      do return .bool (← boolean),
      do word "null"; return .null,
      do return .enum (← enumName),
      do
        word "["
        let items ← nextMany (constValueFuel fuel)
        mark "]"
        return .list items,
      do
        word "\x7b"
        let fields ← nextMany do
          let n ← name
          mark ":"
          let v ← next (constValueFuel fuel)
          return (n, v)
        mark "\x7d"
        return .object fields]

def constValue : Reader ConstValue := fun c => constValueFuel (c.rest.length + 1) c

/-! ## directives -/

def argument : Reader (String × ConstValue) := do
  let n ← name
  mark ":"
  let v ← next constValue
  return (n, v)

def directive : Reader Directive := do
  let pos ← here
  word "@"
  let n ← next name
  let arguments ← nextMaybe do
    word "("
    let as ← nextSome argument
    mark ")"
    return as
  return ⟨n, pos, arguments.getD []⟩

/-- At least one directive. -/
def directives : Reader (List Directive) := do
  let d ← directive
  let ds ← nextMany directive
  return d :: ds

/-- The directives behind a gap, if there are any. -/
def maybeDirectives : Reader (List Directive) := do return (← nextMaybe directives).getD []

/-! ## definitions -/

def inputValue : Reader InputValue := do
  let _ ← maybe string
  let n ← next name
  mark ":"
  let t ← next typeRef
  let default ← nextMaybe do word "="; next constValue
  let ds ← maybeDirectives
  return ⟨n, t, default, ds⟩

def argumentsDefinition : Reader (List InputValue) := do
  word "("
  let as ← nextSome inputValue
  mark ")"
  return as

def fieldDef : Reader FieldDef := do
  let _ ← maybe string
  let n ← next name
  let as ← nextMaybe argumentsDefinition
  mark ":"
  let t ← next typeRef
  let ds ← maybeDirectives
  return ⟨n, as.getD [], t, ds⟩

def fieldsDefinition : Reader (List FieldDef) := do
  word "\x7b"
  let fs ← nextSome fieldDef
  mark "\x7d"
  return fs

def inputFields : Reader (List InputValue) := do
  word "\x7b"
  let fs ← nextSome inputValue
  mark "\x7d"
  return fs

def enumValue : Reader EnumValue := do
  let _ ← maybe string
  let n ← next enumName
  let ds ← maybeDirectives
  return ⟨n, ds⟩

def enumValues : Reader (List EnumValue) := do
  word "\x7b"
  let vs ← nextSome enumValue
  mark "\x7d"
  return vs

/-- Names with a mark between them; one may also stand in front. -/
def separatedNames (separator : String) : Reader (List String) := do
  let _ ← nextMaybe (word separator)
  let n ← next name
  let ns ← nextMany do word separator; next name
  return n :: ns

def implementsInterfaces : Reader (List String) := do word "implements"; separatedNames "&"

def unionMembers : Reader (List String) := do word "="; separatedNames "|"

/-- A definition with an optional description, or an extension. Each has its own way to go on behind the name. -/
def typeForm (keyword : String) (whole extension : Reader (TypeKind × List Directive)) : Reader TypeDef := do
  let pos ← here
  either
    (do
      let _ ← maybe string
      mark keyword
      let n ← next name
      let (kind, ds) ← whole
      return ⟨pos, n, false, kind, ds⟩)
    (do
      word "extend"
      mark keyword
      let n ← next name
      let (kind, ds) ← extension
      return ⟨pos, n, true, kind, ds⟩)

/-- An extension gives a body behind optional directives, or directives alone. -/
def extensionBody {α : Type} (body : Reader α) (kind : Option α → TypeKind) : Reader (TypeKind × List Directive) :=
  either
    (do
      let ds ← maybeDirectives
      let b ← next body
      return (kind (some b), ds))
    (do
      let ds ← next directives
      return (kind none, ds))

/-- A definition gives optional directives and an optional body. -/
def wholeBody {α : Type} (body : Reader α) (kind : Option α → TypeKind) : Reader (TypeKind × List Directive) := do
  let ds ← maybeDirectives
  let b ← nextMaybe body
  return (kind b, ds)

def scalarType : Reader TypeDef :=
  typeForm "scalar" (do return (.scalar, ← maybeDirectives)) (do return (.scalar, ← next directives))

def objectType : Reader TypeDef :=
  let kind (fields : Option (List FieldDef)) : TypeKind := .object (fields.getD [])
  typeForm "type"
    (do
      let _ ← nextMaybe implementsInterfaces
      wholeBody fieldsDefinition kind)
    (either
      (do
        let _ ← nextMaybe implementsInterfaces
        extensionBody fieldsDefinition kind)
      (do
        let _ ← next implementsInterfaces
        return (kind none, [])))

def interfaceType : Reader TypeDef :=
  let kind (fields : Option (List FieldDef)) : TypeKind := .interface (fields.getD [])
  typeForm "interface"
    (do
      let _ ← nextMaybe implementsInterfaces
      wholeBody fieldsDefinition kind)
    (do
      let _ ← nextMaybe implementsInterfaces
      extensionBody fieldsDefinition kind)

def unionType : Reader TypeDef :=
  let kind (members : Option (List String)) : TypeKind := .union (members.getD [])
  typeForm "union" (wholeBody unionMembers kind) (extensionBody unionMembers kind)

def enumType : Reader TypeDef :=
  let kind (values : Option (List EnumValue)) : TypeKind := .enum (values.getD [])
  typeForm "enum" (wholeBody enumValues kind) (extensionBody enumValues kind)

def inputType : Reader TypeDef :=
  let kind (fields : Option (List InputValue)) : TypeKind := .input (fields.getD [])
  typeForm "input" (wholeBody inputFields kind) (extensionBody inputFields kind)

def typeDef : Reader TypeDef := firstOf [scalarType, objectType, interfaceType, unionType, enumType, inputType]

def rootKind : Reader RootKind :=
  firstOf [do word "query"; return .query, do word "mutation"; return .mutation,
    do word "subscription"; return .subscription]

def root : Reader (RootKind × Pos) := do
  let pos ← here
  let kind ← rootKind
  mark ":"
  let _ ← next name
  return (kind, pos)

/-- Directives and roots in braces. -/
def schemaBody : Reader (List Directive × List (RootKind × Pos)) := do
  let ds ← maybeDirectives
  mark "\x7b"
  let roots ← nextSome root
  mark "\x7d"
  return (ds, roots)

def schemaDef : Reader SchemaDef := do
  let pos ← here
  either
    (do
      word "schema"
      let (ds, roots) ← schemaBody
      return ⟨pos, false, ds, roots⟩)
    (do
      word "extend"
      mark "schema"
      let (ds, roots) ← either schemaBody (do return (← next directives, []))
      return ⟨pos, true, ds, roots⟩)

/-- The places where a directive may be declared to apply; a longer word stands before the word it starts with. -/
def directiveLocations : List String := [
  "QUERY", "MUTATION", "SUBSCRIPTION", "FIELD_DEFINITION", "FIELD", "FRAGMENT_DEFINITION", "FRAGMENT_SPREAD",
  "INLINE_FRAGMENT", "VARIABLE_DEFINITION", "SCHEMA", "SCALAR", "OBJECT", "ARGUMENT_DEFINITION", "INTERFACE", "UNION",
  "ENUM_VALUE", "ENUM", "INPUT_OBJECT", "INPUT_FIELD_DEFINITION"]

def directiveLocation : Reader Unit := firstOf (directiveLocations.map word)

def directiveDef : Reader (List InputValue) := do
  let _ ← maybe string
  mark "directive"
  mark "@"
  let _ ← next name
  let arguments ← nextMaybe argumentsDefinition
  let _ ← nextMaybe (word "repeatable")
  mark "on"
  let _ ← nextMaybe (word "|")
  next directiveLocation
  let _ ← nextMany do word "|"; next directiveLocation
  return arguments.getD []

def definition : Reader Definition :=
  firstOf [do return .schema (← schemaDef), do return .type (← typeDef), do return .directive (← directiveDef)]

/-- A whole document: at least one definition, and nothing behind the last. -/
def document : Reader Document := do
  let ds ← nextSome definition
  gap
  return ⟨ds⟩

end ModelApi.Schema.Grammar
