import ModelApi.Json.Basic
import ModelApi.Text.Join

/-!
# Writing JSON

The compact text of a value: no blanks, members in order, and only the escapes that JSON requires.
-/

namespace ModelApi.Json

open Text (joinWith)

/-- A code unit below 256 as four hexadecimal digits. -/
def hexUnit (n : Nat) : String :=
  let digits := Nat.toDigits 16 n
  String.ofList (List.replicate (4 - digits.length) '0' ++ digits)

/-- A character inside a string. -/
def writtenChar (c : Char) : String :=
  if c = '"' then "\\\""
  else if c = '\\' then "\\\\"
  else if c = '\n' then "\\n"
  else if c = '\r' then "\\r"
  else if c = '\t' then "\\t"
  else if c.toNat = 8 then "\\b"
  else if c.toNat = 12 then "\\f"
  else if c.toNat < 32 then "\\u" ++ hexUnit c.toNat
  else String.singleton c

/-- A string with its quotes. -/
def writtenString (s : String) : String := "\"" ++ String.join (s.toList.map writtenChar) ++ "\""

mutual
/-- The compact text of a value. -/
def write : Json → String
  | .null => "null"
  | .bool b => if b then "true" else "false"
  | .num n => n.toText
  | .str s => writtenString s
  | .arr items => "[" ++ joinWith "," (writeItems items) ++ "]"
  | .obj members => "\x7b" ++ joinWith "," (writeMembers members) ++ "\x7d"

def writeItems : List Json → List String
  | [] => []
  | v :: rest => write v :: writeItems rest

def writeMembers : List (String × Json) → List String
  | [] => []
  | (name, v) :: rest => (writtenString name ++ ":" ++ write v) :: writeMembers rest
end

end ModelApi.Json
