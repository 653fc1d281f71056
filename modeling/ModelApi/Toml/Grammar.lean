import ModelApi.Json.Scanner
import ModelApi.Text.Reader
import ModelApi.Toml.Basic

/-!
# The grammar of TOML

TOML 1.0: dotted keys, headers and repeated headers, four forms of strings, numbers with digit separators and other
bases, dates and times, arrays over several lines, and inline tables on one line.
-/

namespace ModelApi.Toml.Grammar

open Text (Reader)
open Text.Reader

/-- A key has at most so many parts, and arrays and inline tables are nested at most so deep. -/
def deepest : Nat := 79

/-! ## blanks, lines and comments -/

def isBlank (c : Char) : Bool := c == ' ' || c == '\t'

/-- The characters that may stand in comments and in strings on one line. -/
def isPlain (c : Char) : Bool := c == '\t' || (0x20 ≤ c.toNat && c.toNat != 0x7F)

def blanks : Reader Unit := do let _ ← many (one isBlank)

def newline : Reader Unit := either (word "\n") (word "\r\n")

def comment : Reader Unit := do word "#"; let _ ← many (one isPlain)

/-- The end of the text. -/
def atEnd : Reader Unit := absent (one fun _ => true)

/-- The rest of a line behind something: blanks and a comment. -/
def lineEnd : Reader Unit := do
  blanks
  let _ ← maybe comment
  either newline atEnd

/-- Blanks, comments and line ends inside an array. -/
def arrayGap : Reader Unit := do
  let _ ← many (firstOf [do let _ ← one isBlank, newline, do comment; newline])

/-! ## strings -/

/-- A code point of so many hexadecimal digits; surrogates are none. -/
def codePoint (digits : Nat) : Reader Char := fun c =>
  let cs := c.rest.take digits
  let values := cs.filterMap Json.hexValue
  if values.length != digits then none
  else
    let n := values.foldl (fun n d => n * 16 + d) 0
    if n.isValidChar then some (Char.ofNat n, ⟨c.rest.drop digits, cs.foldl Text.Pos.after c.pos⟩) else none

/-- The escapes of basic strings. -/
def escape : Reader Char := do
  word "\\"
  firstOf [
    do word "b"; return Char.ofNat 8,
    do word "t"; return '\t',
    do word "n"; return '\n',
    do word "f"; return Char.ofNat 12,
    do word "r"; return '\r',
    do word "\""; return '"',
    do word "\\"; return '\\',
    do word "u"; codePoint 4,
    do word "U"; codePoint 8]

def basicChar : Reader Char := either (one fun c => isPlain c && c != '"' && c != '\\') escape

def basicString : Reader String := do
  word "\""
  let cs ← many basicChar
  word "\""
  return String.ofList cs

def literalString : Reader String := do
  word "'"
  let cs ← many (one fun c => isPlain c && c != '\'')
  word "'"
  return String.ofList cs

/-- A backslash at the end of a line takes away the blanks and line ends up to the next character. -/
def continuation : Reader (List Char) := do
  word "\\"
  blanks
  newline
  let _ ← many (either (do let _ ← one isBlank) newline)
  return []

/-- One or two quotes that do not belong to a closing delimiter. -/
def looseQuotes (quote : Char) : Reader (List Char) :=
  let q := one (· == quote)
  either
    (do let a ← q; let b ← q; absent q; return [a, b])
    (do let a ← q; absent q; return [a])

/-- The closing delimiter, with one or two quotes of the text in front of it. -/
def closingQuotes (quote : Char) : Reader (List Char) :=
  let q := one (· == quote)
  let three : Reader Unit := do let _ ← q; let _ ← q; let _ ← q
  firstOf [do let a ← q; let b ← q; three; return [a, b], do let a ← q; three; return [a], do three; return []]

/-- A string over several lines; a line end right behind the opening delimiter does not count. -/
def longString (quote : Char) (content : Reader (List Char)) : Reader String := do
  chars [quote, quote, quote]
  let _ ← maybe newline
  let parts ← many (firstOf [content, do newline; return ['\n'], looseQuotes quote])
  let tail ← closingQuotes quote
  return String.ofList (parts.flatten ++ tail)

def longBasicString : Reader String :=
  longString '"' (either continuation (do let c ← basicChar; return [c]))

def longLiteralString : Reader String :=
  longString '\'' (do let c ← one fun c => isPlain c && c != '\''; return [c])

/-! ## keys -/

def isBareKeyChar (c : Char) : Bool := c.isAlphanum || c == '_' || c == '-'

def simpleKey : Reader String :=
  firstOf [basicString, literalString, do return String.ofList (← some1 (one isBareKeyChar))]

/-- The parts of a key, with blanks around each. -/
def key : Reader (List String) := do
  let part : Reader String := do blanks; let k ← simpleKey; blanks; return k
  let k ← part
  let ks ← many (do word "."; part)
  let path := k :: ks
  if path.length ≤ deepest then return path else fun _ => none

/-! ## numbers -/

/-- Digits with single underscores between them. -/
def separated (isDigit : Char → Bool) : Reader (List Char) := do
  let c ← one isDigit
  let cs ← many (either (one isDigit) (do word "_"; one isDigit))
  return c :: cs

def sign : Reader Bool := do
  let s ← maybe (one fun c => c == '+' || c == '-')
  return s == some '-'

/-- The digits of a decimal number, without needless zeros in front. -/
def decimalDigits : Reader (List Char) :=
  either
    (do
      let c ← one fun c => c.isDigit && c != '0'
      let cs ← many (either (one Char.isDigit) (do word "_"; one Char.isDigit))
      return c :: cs)
    (do let c ← one Char.isDigit; return [c])

/-- A whole number of 64 bits with sign. -/
def inRange (n : Int) : Reader Value :=
  if Int64.minValue.toInt ≤ n ∧ n ≤ Int64.maxValue.toInt then pure (.int n) else fun _ => none

/-- A number in another base. -/
def based (start : String) (base : Nat) : Reader Value := do
  word start
  let ds ← separated fun c => (Json.hexValue c).any (· < base)
  inRange (ds.foldl (fun n c => n * base + (Json.hexValue c).getD 0) 0)

def integer : Reader Value :=
  firstOf [
    based "0x" 16, based "0o" 8, based "0b" 2,
    do
      let negative ← sign
      let ds ← decimalDigits
      let n : Int := Number.ofDigits ds
      inRange (if negative then -n else n)]

/-- Whether the whole number with these digits, times a power of ten, is beyond all doubles. Numbers below one, and
numbers with more than 400 digits before the point, are settled by their size alone. -/
def overflows (digits : List Char) (e : Int) : Bool :=
  let significant := digits.dropWhile (· == '0')
  let size : Int := significant.length + e
  if significant.isEmpty || size < 0 then false
  else if 400 < size then true
  else
    let (n, d) := Binary64.timesTenPow (Number.ofDigits significant) 1 e
    (Binary64.ofQuotient false n d).isNone

/-- A decimal with a fraction or an exponent. Numbers above zero that are beyond all doubles are refused. -/
def decimal : Reader Value := do
  let negative ← sign
  let whole ← decimalDigits
  let fraction ← maybe (do word "."; separated Char.isDigit)
  let exponent ← maybe do
    let _ ← one fun c => c == 'e' || c == 'E'
    let negative ← sign
    let ds ← separated Char.isDigit
    let e : Int := Number.ofDigits ds
    return if negative then -e else e
  if fraction.isNone && exponent.isNone then fun _ => none
  else if !negative && overflows (whole ++ fraction.getD []) (exponent.getD 0 - (fraction.getD []).length) then
    fun _ => none
  else return .real

def special : Reader Value := do
  let _ ← sign
  either (word "inf") (word "nan")
  return .real

/-! ## dates and times -/

/-- A number of exactly so many digits within bounds. -/
def fixed (digits low high : Nat) : Reader Nat := fun c =>
  let cs := c.rest.take digits
  let n := Number.ofDigits cs
  if cs.length == digits && cs.all Char.isDigit && low ≤ n && n ≤ high then
    some (n, ⟨c.rest.drop digits, cs.foldl Text.Pos.after c.pos⟩)
  else none

/-- A number with leading zeros. -/
def padded (width n : Nat) : String :=
  let ds := Nat.toDigits 10 n
  String.ofList (List.replicate (width - ds.length) '0' ++ ds)

def isLeapYear (y : Nat) : Bool := (y % 4 == 0 && y % 100 != 0) || y % 400 == 0

def daysInMonth (y m : Nat) : Nat :=
  if m == 2 then (if isLeapYear y then 29 else 28) else if [4, 6, 9, 11].contains m then 30 else 31

def date : Reader String := do
  let y ← fixed 4 0 9999
  word "-"
  let m ← fixed 2 1 12
  word "-"
  let d ← fixed 2 1 (daysInMonth y m)
  return padded 4 y ++ "-" ++ padded 2 m ++ "-" ++ padded 2 d

/-- A fraction of a second: nine digits count, and zeros at the end are dropped. -/
def secondFraction (ds : List Char) : String :=
  let kept := ((ds.take 9).reverse.dropWhile (· == '0')).reverse
  if kept.isEmpty then "" else "." ++ String.ofList kept

def time : Reader String := do
  let h ← fixed 2 0 23
  word ":"
  let m ← fixed 2 0 59
  word ":"
  let s ← fixed 2 0 60
  let f ← maybe (do word "."; some1 (one Char.isDigit))
  return padded 2 h ++ ":" ++ padded 2 m ++ ":" ++ padded 2 s ++ secondFraction (f.getD [])

def offset : Reader String :=
  either (do let _ ← one fun c => c == 'Z' || c == 'z'; return "Z")
    (do
      let s ← one fun c => c == '+' || c == '-'
      let h ← fixed 2 0 23
      word ":"
      let m ← fixed 2 0 59
      let negative := s == '-' && h + m != 0
      return (if negative then "-" else "+") ++ padded 2 h ++ ":" ++ padded 2 m)

def dateTime : Reader Value :=
  either
    (do
      let d ← date
      let t ← maybe do
        let _ ← one fun c => c == 'T' || c == 't' || c == ' '
        let t ← time
        let o ← maybe offset
        return "T" ++ t ++ o.getD ""
      return .date (d ++ t.getD ""))
    (do return .date (← time))

/-! ## values -/

/-- Adds the pairs of an inline table one after the other. -/
def inlineTable (pairs : List (List String × Value)) : Option Value := do
  let t ← pairs.foldlM
    (fun (t : Table) (pair : List String × Value) => do
      let key ← pair.1.getLast?
      t.add true pair.1.dropLast key pair.2)
    (.fresh ⟨true, false, false⟩)
  return t.toValue

/-- A value that holds no other values. -/
def scalar : Reader Value :=
  firstOf [
    do return .text (← longBasicString),
    do return .text (← basicString),
    do return .text (← longLiteralString),
    do return .text (← literalString),
    do word "true"; return .bool true,
    do word "false"; return .bool false,
    dateTime,
    decimal,
    special,
    integer]

/-- An array of what `item` reads; a comma may stand behind the last item. -/
def arrayOf (item : Reader Value) : Reader Value := do
  word "["
  let spaced : Reader Value := do arrayGap; let v ← item; arrayGap; return v
  let first ← maybe spaced
  let others ← match first with
    | none => pure []
    | some _ => many (do word ","; spaced)
  if first.isSome then let _ ← maybe (word ",")
  arrayGap
  word "]"
  return .array (first.toList ++ others)

/-- An inline table whose values `item` reads. -/
def inlineTableOf (item : Reader Value) : Reader Value := do
  word "\x7b"
  let pair : Reader (List String × Value) := do
    let k ← key
    word "="
    blanks
    let v ← item
    blanks
    return (k, v)
  let first ← maybe pair
  let others ← match first with
    | none => pure []
    | some _ => many (do word ","; pair)
  blanks
  word "\x7d"
  match inlineTable (first.toList ++ others) with
  | some v => return v
  | none => fun _ => none

/-- A value with at most so many arrays and inline tables inside each other. -/
def valueWithin : Nat → Reader Value
  | 0 => scalar
  | depth + 1 => firstOf [scalar, arrayOf (valueWithin depth), inlineTableOf (valueWithin depth)]

def value : Reader Value := valueWithin deepest

/-! ## documents -/

/-- A line of a document. -/
inductive Line where
  | empty
  | pair (key : List String) (value : Value)
  | header (path : List String)
  | repeatedHeader (path : List String)

def line : Reader Line := do
  blanks
  firstOf [
    do newline; return .empty,
    do comment; either newline atEnd; return .empty,
    do word "[["; let k ← key; word "]]"; lineEnd; return .repeatedHeader k,
    do absent (word "[["); word "["; let k ← key; word "]"; lineEnd; return .header k,
    do
      let k ← key
      word "="
      blanks
      let v ← value
      lineEnd
      return .pair k v]

def document : Reader (List Line) := do
  let _ ← maybe (one fun c => c.toNat == 0xFEFF)
  let ls ← many line
  blanks
  return ls

end ModelApi.Toml.Grammar

namespace ModelApi.Toml

/-- The document after one more line. -/
def Draft.take (d : Draft) : Grammar.Line → Option Draft
  | .empty => some d
  | .pair key v => key.getLast?.bind fun last => d.add key.dropLast last v
  | .header path => d.open path
  | .repeatedHeader path => d.openRepeated path

/-- The root table of a document. -/
def read (text : String) : Option Table := do
  let lines ← Text.Reader.whole Grammar.document text
  let d ← lines.foldlM Draft.take .start
  d.close

end ModelApi.Toml
