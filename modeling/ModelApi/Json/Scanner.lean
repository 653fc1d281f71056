import ModelApi.Json.Draft

/-!
# From text to drafts

A strict scanner: no comments, no trailing commas, no control characters inside strings, no leading zeros; blanks are
the space, the tab, the line feed and the carriage return. It stops at the first fault.
-/

namespace ModelApi.Json

/-- The blanks between tokens. -/
def isBlank (c : Char) : Bool := c == ' ' || c == '\n' || c == '\t' || c == '\r'

/-- Drops the blanks in front. -/
def skipBlanks (cs : List Char) : List Char := cs.dropWhile isBlank

/-! ## strings -/

/-- The value of a hexadecimal digit. -/
def hexValue (c : Char) : Option Nat :=
  if '0' ≤ c ∧ c ≤ '9' then some (c.toNat - '0'.toNat)
  else if 'a' ≤ c ∧ c ≤ 'f' then some (c.toNat - 'a'.toNat + 10)
  else if 'A' ≤ c ∧ c ≤ 'F' then some (c.toNat - 'A'.toNat + 10)
  else none

/-- The number of bytes of a text. -/
def byteLength (cs : List Char) : Nat := cs.foldl (fun n c => n + c.utf8Size) 0

/-- A code unit of four hexadecimal digits. With fewer than four bytes left the text is truncated. -/
def scanUnit (cs : List Char) : Except Fault (Nat × List Char) :=
  match cs with
  | a :: b :: c :: d :: rest =>
    match hexValue a, hexValue b, hexValue c, hexValue d with
    | some a, some b, some c, some d => .ok (((a * 16 + b) * 16 + c) * 16 + d, rest)
    | _, _, _, _ => .error .malformed
  | _ => .error (if byteLength cs < 4 then .truncated else .malformed)

def isHighSurrogate (n : Nat) : Bool := 0xD800 ≤ n && n ≤ 0xDBFF
def isLowSurrogate (n : Nat) : Bool := 0xDC00 ≤ n && n ≤ 0xDFFF

/-- The character of a surrogate pair. -/
def joinSurrogates (high low : Nat) : Char := Char.ofNat (0x10000 + (high - 0xD800) * 0x400 + (low - 0xDC00))

/-- What follows the first half of a surrogate pair: the second half, or something else. When the text breaks off
inside the second half, the scan goes on and reports that. -/
inductive SecondHalf where
  | found (low : Nat) (rest : List Char)
  | absent
  | cut

def secondHalf : List Char → SecondHalf
  | [] => .cut
  | ['\\'] => .cut
  | '\\' :: 'u' :: rest =>
    match scanUnit rest with
    | .ok (n, rest) => if isLowSurrogate n then .found n rest else .absent
    | .error _ => .cut
  | _ => .absent

/-- The characters of the escapes with one letter. -/
def simpleEscape (c : Char) : Option Char :=
  match c with
  | '"' => some '"'
  | '\\' => some '\\'
  | '/' => some '/'
  | 'b' => some (Char.ofNat 8)
  | 'f' => some (Char.ofNat 12)
  | 'n' => some '\n'
  | 'r' => some '\r'
  | 't' => some '\t'
  | _ => none

/-- A string up to its closing quote, or the place where it breaks. -/
inductive StringScan where
  | closed (s : Option String) (rest : List Char)
  | broken (b : Break)

/-- The scan of a string behind its opening quote. The characters so far come last first; a string that is not sound
has half of a surrogate pair. -/
def scanString (fuel : Nat) (sound : Bool) (acc : List Char) (cs : List Char) : StringScan :=
  let fault (f : Fault) : StringScan := .broken ⟨if sound then f else .malformed, f⟩
  match fuel, cs with
  | 0, _ => fault .truncated
  | _, [] => fault .truncated
  | _, '"' :: rest => .closed (if sound then some (String.ofList acc.reverse) else none) rest
  | _, ['\\'] => fault .truncated
  | fuel + 1, '\\' :: 'u' :: rest =>
    match scanUnit rest with
    | .error f => fault f
    | .ok (n, rest) =>
      if isLowSurrogate n then scanString fuel false acc rest
      else if isHighSurrogate n then
        match secondHalf rest with
        | .found low rest => scanString fuel sound (joinSurrogates n low :: acc) rest
        | .absent => scanString fuel false acc rest
        | .cut => scanString fuel sound acc rest
      else scanString fuel sound (Char.ofNat n :: acc) rest
  | fuel + 1, '\\' :: e :: rest =>
    match simpleEscape e with
    | some c => scanString fuel sound (c :: acc) rest
    | none => fault .malformed
  | fuel + 1, c :: rest => if c.toNat < 32 then fault .malformed else scanString fuel sound (c :: acc) rest

/-- A string behind its opening quote. -/
def scanQuoted (cs : List Char) : StringScan := scanString (cs.length + 1) true [] cs

/-! ## numbers and names -/

/-- A draft together with what is left of the text, if the text has not broken inside the draft. -/
structure Scan where
  draft : Draft
  rest : Option (List Char)

/-- The end of the scan at a fault. -/
def Scan.stopped (start : Onset) (b : Break) : Scan := ⟨.broken start b, none⟩

/-- The fault of a number without a digit that it needs; one who skips the number does not tell the end of the text
from another character. -/
def digitFault (rest : List Char) : Scan :=
  .stopped .literal ⟨if rest.isEmpty then .truncated else .malformed, .malformed⟩

/-- The exponent of a number, if it has one. -/
def scanExponent (cs : List Char) (build : Option Int → Option Number) : Scan :=
  match cs with
  | e :: rest =>
    if e = 'e' ∨ e = 'E' then
      let (negative, rest) := match rest with
        | '+' :: r => (false, r)
        | '-' :: r => (true, r)
        | r => (false, r)
      let digits := rest.takeWhile Char.isDigit
      let rest := rest.dropWhile Char.isDigit
      if digits.isEmpty then digitFault rest
      else
        let e : Int := Number.ofDigits digits
        ⟨.num (build (some (if negative then -e else e))), some rest⟩
    else ⟨.num (build none), some cs⟩
  | [] => ⟨.num (build none), some []⟩

/-- A number behind its sign. -/
def scanNumber (negative : Bool) (cs : List Char) : Scan :=
  let whole := cs.takeWhile Char.isDigit
  let rest := cs.dropWhile Char.isDigit
  match whole with
  | [] => digitFault rest
  | '0' :: _ :: _ => .stopped .literal (.both .malformed)
  | _ =>
    match rest with
    | '.' :: rest =>
      let fraction := rest.takeWhile Char.isDigit
      let rest := rest.dropWhile Char.isDigit
      if fraction.isEmpty then digitFault rest
      else scanExponent rest (Number.ofParts negative whole (some fraction))
    | _ => scanExponent rest (Number.ofParts negative whole none)

/-- The letters of a literal name behind its first. -/
def scanName (d : Draft) : List Char → List Char → Scan
  | [], cs => ⟨d, some cs⟩
  | _ :: _, [] => .stopped .literal (.both .truncated)
  | l :: ls, c :: cs => if c = l then scanName d ls cs else .stopped .literal (.both .malformed)

/-! ## values -/

mutual
/-- A value, blanks in front included. -/
def scanValue (fuel : Nat) (cs : List Char) : Scan :=
  match fuel with
  | 0 => .stopped .nothing (.both .truncated)
  | fuel + 1 =>
    match skipBlanks cs with
    | [] => .stopped .nothing (.both .truncated)
    | 'n' :: rest => scanName .null ['u', 'l', 'l'] rest
    | 't' :: rest => scanName (.bool true) ['r', 'u', 'e'] rest
    | 'f' :: rest => scanName (.bool false) ['a', 'l', 's', 'e'] rest
    | '-' :: rest => scanNumber true rest
    | '"' :: rest =>
      match scanQuoted rest with
      | .closed s rest => ⟨.str s, some rest⟩
      | .broken b => .stopped .quote b
    | '[' :: rest =>
      match skipBlanks rest with
      | [] => ⟨.arr [] (some .truncated), none⟩
      | ']' :: rest => ⟨.arr [] none, some rest⟩
      | rest => let (items, stop, rest) := scanItems fuel rest; ⟨.arr items stop, rest⟩
    | '\x7b' :: rest =>
      match skipBlanks rest with
      | [] => ⟨.obj [] (some ⟨.both .truncated, false⟩), none⟩
      | '\x7d' :: rest => ⟨.obj [] none, some rest⟩
      | rest => let (members, stop, rest) := scanMembers fuel false rest; ⟨.obj members stop, rest⟩
    | c :: rest => if c.isDigit then scanNumber false (c :: rest) else .stopped .nothing (.both .malformed)

/-- The items of an array from one item on, up to the closing bracket. -/
def scanItems (fuel : Nat) (cs : List Char) : List Draft × Option Fault × Option (List Char) :=
  match fuel with
  | 0 => ([], some .truncated, none)
  | fuel + 1 =>
    match scanValue fuel cs with
    | ⟨d, none⟩ => ([d], none, none)
    | ⟨d, some rest⟩ =>
      match skipBlanks rest with
      | [] => ([d], some .truncated, none)
      | ']' :: rest => ([d], none, some rest)
      | ',' :: rest => let (items, stop, rest) := scanItems fuel rest; (d :: items, stop, rest)
      | _ => ([d], some .malformed, none)

/-- The members of an object from one name on, up to the closing brace. A comma may stand in front of that name. -/
def scanMembers (fuel : Nat) (behindComma : Bool) (cs : List Char) :
    List (Option String × Draft) × Option Gap × Option (List Char) :=
  match fuel with
  | 0 => ([], some ⟨.both .truncated, behindComma⟩, none)
  | fuel + 1 =>
    match skipBlanks cs with
    | [] => ([], some ⟨.both .truncated, behindComma⟩, none)
    | '"' :: rest =>
      match scanQuoted rest with
      | .broken b => ([], some ⟨b, behindComma⟩, none)
      | .closed name rest =>
        match skipBlanks rest with
        | [] => ([(name, .broken .nothing (.both .truncated))], none, none)
        | ':' :: rest =>
          match scanValue fuel rest with
          | ⟨d, none⟩ => ([(name, d)], none, none)
          | ⟨d, some rest⟩ =>
            match skipBlanks rest with
            | [] => ([(name, d)], some ⟨.both .truncated, false⟩, none)
            | '\x7d' :: rest => ([(name, d)], none, some rest)
            | ',' :: rest =>
              let (members, stop, rest) := scanMembers fuel true rest
              ((name, d) :: members, stop, rest)
            | _ => ([(name, d)], some ⟨.both .malformed, false⟩, none)
        | _ => ([(name, .broken .nothing (.both .malformed))], none, none)
    | _ => ([], some ⟨.both .malformed, behindComma⟩, none)
end

/-- A text as a draft, and the fault of what follows the value. -/
structure Page where
  draft : Draft
  trailing : Option Fault

/-- Scans a whole text. -/
def scan (text : String) : Page :=
  let cs := text.toList
  match scanValue (2 * cs.length + 2) cs with
  | ⟨d, none⟩ => ⟨d, none⟩
  | ⟨d, some rest⟩ => ⟨d, if (skipBlanks rest).isEmpty then none else some .malformed⟩

/-- The value of a whole text. -/
def ofText (text : String) : Except Fault Json := do
  let page := scan text
  let v ← page.draft.toJson
  match page.trailing with
  | none => .ok v
  | some f => .error f

end ModelApi.Json
