import ModelApi.OrderedMap

/-!
# TOML documents

The values of a TOML document and the tables they are collected in. A table remembers how it came about, because that
decides what may be added to it later:

* an implicit table was only mentioned on the way to another one, and may still get a header of its own;
* a dotted table came from a dotted key, and takes further dotted keys but no header;
* an inline table is complete where it stands.
-/

namespace ModelApi.Toml

/-- How a table came about. -/
structure Origin where
  inline : Bool
  implicit : Bool
  dotted : Bool
  deriving DecidableEq, Repr

/-- A table with a header of its own. -/
def Origin.header : Origin := ⟨false, false, false⟩

/-- A value of a document. -/
inductive Value where
  | text (s : String)
  | int (n : Int)
  | real
  | bool (b : Bool)
  | date (text : String)
  | array (items : List Value)
  | table (origin : Origin) (entries : List (String × Value))
  /-- The tables with a repeated header. -/
  | tables (items : List (List (String × Value)))

/-- A table by its parts. -/
structure Table where
  origin : Origin
  entries : List (String × Value)

def Table.toValue (t : Table) : Value := .table t.origin t.entries

/-- Sets an entry. -/
def Table.put (t : Table) (key : String) (v : Value) : Table := { t with entries := OrderedMap.put key v t.entries }

/-- Takes an entry out. -/
def Table.erase (t : Table) (key : String) : Table := { t with entries := t.entries.filter (·.1 != key) }

/-- The table without entries. -/
def Table.fresh (origin : Origin) : Table := ⟨origin, []⟩

/-- Changes the table at a path, and creates the tables on the way that do not exist. Dotted keys may pass through
implicit tables only; a value that is no table ends the path. -/
def Table.alterAt (inline dotted : Bool) (f : Table → Option Table) : List String → Table → Option Table
  | [], t => f t
  | key :: path, t =>
    match OrderedMap.find key t.entries with
    | none => do
      let child ← alterAt inline dotted f path (.fresh ⟨inline, true, dotted⟩)
      return t.put key child.toValue
    | some (.table origin entries) =>
      if origin.inline != inline || (dotted && !origin.implicit) then none
      else do
        let child ← alterAt inline dotted f path ⟨origin, entries⟩
        return t.put key child.toValue
    | some (.tables items) =>
      match items.reverse with
      | [] => none
      | last :: before => do
        let child ← alterAt inline dotted f path ⟨.header, last⟩
        return t.put key (.tables (child.entries :: before).reverse)
    | some _ => none

/-- Adds a value under a dotted key. The table that takes it is dotted exactly when the key has several parts. -/
def Table.add (inline : Bool) (path : List String) (key : String) (v : Value) (t : Table) : Option Table :=
  t.alterAt inline true
    (fun t =>
      if t.origin.dotted == path.isEmpty || (OrderedMap.find key t.entries).isSome then none else some (t.put key v))
    path

/-! ## documents under construction -/

/-- A document under construction: the finished part, and the table that lines are added to with the path of its
header. -/
structure Draft where
  root : Table
  current : Table
  path : List String
  repeated : Bool

/-- The document before its first line. -/
def Draft.start : Draft := ⟨.fresh .header, .fresh .header, [], false⟩

/-- Appends a table to a list of tables. -/
def appendTable (t : Table) (key : String) (parent : Table) : Option Table :=
  match OrderedMap.find key parent.entries with
  | none => some (parent.put key (.tables [t.entries]))
  | some (.tables items) => some (parent.put key (.tables (items ++ [t.entries])))
  | some _ => none

/-- Moves the current table into the finished part. -/
def Draft.close (d : Draft) : Option Table :=
  match d.path.reverse with
  | [] => some d.current
  | key :: parents =>
    d.root.alterAt false false
      (fun parent => if d.repeated then appendTable d.current key parent else some (parent.put key d.current.toValue))
      parents.reverse

/-- Adds a value to the current table. -/
def Draft.add (d : Draft) (path : List String) (key : String) (v : Value) : Option Draft := do
  let current ← d.current.add false path key v
  return { d with current }

/-- The entry of a parent that a header would define, taken out of it: an implicit table goes on with what it has. -/
def takeImplicit (key : String) (parent : Table) : Option (Table × List (String × Value)) :=
  match OrderedMap.find key parent.entries with
  | none => some (parent, [])
  | some (.table origin entries) =>
    if !origin.inline && origin.implicit && !origin.dotted then some (parent.erase key, entries) else none
  | some _ => none

/-- The entries of the table at a path. -/
def Table.entriesAt? : List String → Table → Option Table
  | [], t => some t
  | key :: path, t =>
    match OrderedMap.find key t.entries with
    | some (.table origin entries) => entriesAt? path ⟨origin, entries⟩
    | some (.tables items) => (items.getLast?).bind fun entries => entriesAt? path ⟨.header, entries⟩
    | _ => none

/-- Starts the table of a header. -/
def Draft.open (d : Draft) (path : List String) : Option Draft := do
  let root ← d.close
  let key ← path.getLast?
  let parents := path.dropLast
  let kept := (root.entriesAt? parents).bind fun parent => (takeImplicit key parent).map (·.2)
  let root ← root.alterAt false false (fun parent => (takeImplicit key parent).map (·.1)) parents
  return ⟨root, ⟨.header, kept.getD []⟩, path, false⟩

/-- Starts another table of a repeated header. -/
def Draft.openRepeated (d : Draft) (path : List String) : Option Draft := do
  let root ← d.close
  let key ← path.getLast?
  let root ← root.alterAt false false
    (fun parent =>
      match OrderedMap.find key parent.entries with
      | none => some (parent.put key (.tables []))
      | some (.tables _) => some parent
      | some _ => none)
    path.dropLast
  return ⟨root, .fresh .header, path, true⟩

end ModelApi.Toml
