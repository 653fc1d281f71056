import ModelApi.Json.Draft
import ModelApi.Text.Join
import ModelApi.Text.Quoted

/-!
# Decoding typed data

Typed data is decoded from a draft in the order of the text, and the first problem is reported. Four kinds of source
agree on all but a few points: what happens to array items beyond the fields of a record, and which shapes the name of
a choice may take.

* `Shape` describes a record: its fields in order, whether it refuses unknown ones, and how it is finished. A record may
  also be given as the array of its fields.
* `choice` decodes a name out of a list.
-/

namespace ModelApi.Decode

open Text (joinWith)

/-- Where a draft comes from. -/
inductive Source where
  /-- JSON text that is read as it comes. -/
  | text
  /-- A complete value, such as directive arguments. -/
  | value
  /-- A part of a text that was put aside until its kind was known. -/
  | buffer
  /-- A document of tables. -/
  | tables
  deriving DecidableEq, Repr

/-- What stands where something else was expected. -/
inductive Found where
  | null | bool (b : Bool) | num (n : Number) | str (s : String) | sequence | map
  deriving DecidableEq, Repr

def Found.message : Found → String
  | .null => "null"
  | .bool b => "boolean `" ++ (if b then "true" else "false") ++ "`"
  | .num (.int n) => "integer `" ++ toString n ++ "`"
  | .num (.real x) => "floating point `" ++ x.toText ++ "`"
  | .str s => "string " ++ Text.quoted s
  | .sequence => "sequence"
  | .map => "map"

/-- Why typed data could not be decoded. -/
inductive Problem where
  | fault (f : Fault)
  | wrongType (found : Found) (expected : String)
  | wrongValue (found : Found) (expected : String)
  | wrongLength (length : Nat) (expected : String)
  | unknownVariant (name : String) (known : List String)
  | unknownField (name : String) (known : List String)
  | missingField (name : String)
  | duplicateField (name : String)
  deriving DecidableEq, Repr

/-- A name in back quotes. -/
def ticked (name : String) : String := "`" ++ name ++ "`"

/-- The names that would have been accepted. -/
def alternatives : List String → String
  | [a] => ticked a
  | [a, b] => ticked a ++ " or " ++ ticked b
  | names => "one of " ++ joinWith ", " (names.map ticked)

/-- The wording of a problem. A fault of the text has none of its own. -/
def Problem.message : Problem → String
  | .fault _ => ""
  | .wrongType found expected => "invalid type: " ++ found.message ++ ", expected " ++ expected
  | .wrongValue found expected => "invalid value: " ++ found.message ++ ", expected " ++ expected
  | .wrongLength n expected => "invalid length " ++ toString n ++ ", expected " ++ expected
  | .unknownVariant name known => "unknown variant " ++ ticked name ++ ", expected " ++ alternatives known
  | .unknownField name known => "unknown field " ++ ticked name ++ ", expected " ++ alternatives known
  | .missingField name => "missing field " ++ ticked name
  | .duplicateField name => "duplicate field " ++ ticked name

/-! ## simple data -/

/-- The problem of a value that is not what was expected; a value that breaks off says so instead. -/
def mismatch (expected : String) : Draft → Problem
  | .null => .wrongType .null expected
  | .bool b => .wrongType (.bool b) expected
  | .num (some n) => .wrongType (.num n) expected
  | .num none => .fault .malformed
  | .str (some s) => .wrongType (.str s) expected
  | .str none => .fault .malformed
  | .arr _ _ => .wrongType .sequence expected
  | .obj _ _ => .wrongType .map expected
  | .broken _ b => .fault b.read

/-- Fails with the fault, if there is one. -/
def refuse : Option Fault → Except Problem Unit
  | none => .ok ()
  | some f => .error (.fault f)

/-- A text, described by `expected` when it is something else. -/
def textAs (expected : String) : Draft → Except Problem String
  | .str (some s) => .ok s
  | d => .error (mismatch expected d)

def text : Draft → Except Problem String := textAs "a string"

def flag : Draft → Except Problem Bool
  | .bool b => .ok b
  | d => .error (mismatch "a boolean" d)

/-- A whole number of 32 bits without sign. -/
def word32 : Draft → Except Problem UInt32
  | .num (some (.int n)) =>
    if 0 ≤ n ∧ n.toNat < UInt32.size then .ok (UInt32.ofNat n.toNat) else .error (.wrongValue (.num (.int n)) "u32")
  | d => .error (mismatch "u32" d)

/-- Nothing for null, else what the decoder says. -/
def optional {α : Type} (decode : Draft → Except Problem α) : Draft → Except Problem (Option α)
  | .null => .ok none
  | d => (decode d).map some

/-- The items of an array. -/
def items {α : Type} (decode : Draft → Except Problem α) : Draft → Except Problem (List α)
  | .arr ds stop => do
    let vs ← ds.mapM decode
    refuse stop
    .ok vs
  | d => .error (mismatch "a sequence" d)

/-- The members of an object, put into an ordered map one after the other. -/
def entries {α : Type} (decode : Draft → Except Problem α) (m : OrderedMap String α) :
    List (Option String × Draft) → Except Problem (OrderedMap String α)
  | [] => .ok m
  | (none, _) :: _ => .error (.fault .malformed)
  | (some name, d) :: rest => do
    let v ← decode d
    entries decode (m.insert name v) rest

/-- An object with members of one kind. -/
def dictionary {α : Type} (decode : Draft → Except Problem α) : Draft → Except Problem (OrderedMap String α)
  | .obj members stop => do
    let m ← entries decode .empty members
    refuse (stop.map (·.read))
    .ok m
  | d => .error (mismatch "a map" d)

/-! ## records -/

/-- A field of a record that is being decoded into a state. -/
structure Field (σ : Type) where
  name : String
  read : Source → Draft → σ → Except Problem σ

/-- A field that is decoded and then stored. -/
def Field.of {σ β : Type} (name : String) (decode : Source → Draft → Except Problem β) (store : σ → β → σ) : Field σ :=
  ⟨name, fun source d s => (decode source d).map (store s)⟩

/-- A text field. -/
def Field.ofText {σ : Type} (name : String) (store : σ → String → σ) : Field σ := .of name (fun _ => text) store

/-- A record: its name, its fields in order, whether unknown fields are refused, the state before any field is read, and
how the state becomes a value. `finish` is told which problem a field poses that is needed and missing. -/
structure Shape (σ α : Type) where
  name : String
  fields : List (Field σ)
  strict : Bool
  start : σ
  finish : (Nat → String → Problem) → σ → Except Problem α

namespace Shape

variable {σ α : Type}

/-- How messages call the record. -/
def description (shape : Shape σ α) : String := "struct " ++ shape.name

/-- The names of the fields. -/
def names (shape : Shape σ α) : List String := shape.fields.map (·.name)

/-- Reads members in the order given; `seen` lists the fields that were read. -/
def readMembers (shape : Shape σ α) (source : Source) (seen : List String) (s : σ) :
    List (Option String × Draft) → Except Problem σ
  | [] => .ok s
  | (none, _) :: _ => .error (.fault .malformed)
  | (some name, d) :: rest =>
    match shape.fields.find? (·.name == name) with
    | none =>
      if shape.strict then .error (.unknownField name shape.names)
      else do
        refuse d.skipFault
        shape.readMembers source seen s rest
    | some field =>
      if seen.contains name then .error (.duplicateField name)
      else do
        let s ← field.read source d s
        shape.readMembers source (name :: seen) s rest

/-- Reads fields from the items of an array, and gives the items that are left over. -/
def readItems (source : Source) : List (Field σ) → List Draft → σ → Except Problem (σ × List Draft)
  | field :: fields, d :: ds, s => do
    let s ← field.read source d s
    readItems source fields ds s
  | _, ds, s => .ok (s, ds)

/-- A number of elements in words. -/
def countText (n : Nat) : String := if n = 1 then "1 element" else toString n ++ " elements"

/-- What items beyond the fields of a record mean. -/
def surplus (source : Source) (fields total : Nat) : Except Problem Unit :=
  match source with
  | .text => .error (.fault .malformed)
  | .value => .error (.wrongLength total "fewer elements in array")
  | .buffer => .error (.wrongLength total (countText fields ++ " in sequence"))
  | .tables => .ok ()

/-- Decodes a record from an object, or from the array of its fields. -/
def decode (shape : Shape σ α) (source : Source) : Draft → Except Problem α
  | .obj members stop => do
    let s ← shape.readMembers source [] shape.start members
    refuse (stop.map (·.read))
    shape.finish (fun _ name => .missingField name) s
  | .arr ds stop => do
    let (s, left) ← readItems source shape.fields ds shape.start
    if left.isEmpty then refuse stop else surplus source shape.fields.length ds.length
    shape.finish (fun i _ => .wrongLength i (shape.description ++ " with " ++ countText shape.fields.length)) s
  | d => .error (mismatch shape.description d)

end Shape

/-- The value of a field that a record cannot do without. -/
def needed {α : Type} (problem : Nat → String → Problem) (position : Nat) (name : String) : Option α → Except Problem α
  | some a => .ok a
  | none => .error (problem position name)

/-! ## choices -/

/-- The meaning of a name. -/
def named {α : Type} (options : List (String × α)) (name : String) : Except Problem α :=
  match options.lookup name with
  | some a => .ok a
  | none => .error (.unknownVariant name (options.map (·.1)))

/-- What stands beside the name of a choice when it is written as an object with one member. -/
def unit (source : Source) : Draft → Except Problem Unit
  | .arr [] none => if source = .tables then .ok () else .error (mismatch "unit" (.arr [] none))
  | .null => if source = .tables then .error (mismatch "unit" .null) else .ok ()
  | .obj [] none => if source = .buffer ∨ source = .tables then .ok () else .error (mismatch "unit" (.obj [] none))
  | d => .error (mismatch "unit" d)

/-- A name out of a list, or an object whose only member has that name and nothing beside it. In text, anything that does
not start like one of them is malformed, and so is anything but the closing brace behind the member. -/
def choice {α : Type} (options : List (String × α)) (source : Source) : Draft → Except Problem α
  | .str (some name) => named options name
  | .obj ((some name, d) :: rest) stop =>
    match source, rest with
    | .text, rest => do
      let a ← named options name
      unit source d
      if rest.isEmpty then refuse (stop.map (·.atClose)) else .error (.fault .malformed)
      .ok a
    | _, [] => do
      let a ← named options name
      unit source d
      .ok a
    | _, _ :: _ => .error (.wrongValue .map "map with a single key")
  | d =>
    match source, d with
    | .text, .broken .literal _ => .error (.fault .malformed)
    | .text, .broken _ b => .error (.fault b.read)
    | .text, .obj [] (some g) => .error (.fault g.read)
    | .text, _ => .error (.fault .malformed)
    | _, .obj _ _ => .error (.wrongValue .map "map with a single key")
    | _, d => .error (mismatch "string or map" d)

end ModelApi.Decode
