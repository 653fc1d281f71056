import ModelApi.Json.Basic

/-!
# Drafts of JSON text

A draft is what can be made out of a text up to the first place where it is no JSON. A reader that walks a draft in
order therefore meets a value of the wrong kind before a fault that comes later in the text, and the fault before
anything it would have said about the missing rest.

A value that is skipped is held to less than a value that is read: a string may hold half of a surrogate pair, a number
may be beyond all doubles, and nesting may be deeper. So a draft notes such values, and a fault says what each of the
two readers makes of it.
-/

namespace ModelApi

/-- Why a text is no JSON: it ended too early, or it goes on in a way it cannot. -/
inductive Fault where
  | truncated | malformed
  deriving DecidableEq, Repr

/-- A fault as seen by one who reads the value and by one who skips it. -/
structure Break where
  read : Fault
  skip : Fault
  deriving DecidableEq, Repr

/-- The same fault for both. -/
def Break.both (f : Fault) : Break := ⟨f, f⟩

/-- What a broken value starts with: nothing that could start one, a quote, or a number or literal name. -/
inductive Onset where
  | nothing | quote | literal
  deriving DecidableEq, Repr

/-- The fault that an object ends with. It stands in place of a comma or the closing brace, or of a name: the first one
or one behind a comma. -/
structure Gap where
  fault : Break
  behindComma : Bool
  deriving DecidableEq, Repr

namespace Gap

/-- What one makes of it who reads the members. -/
def read (g : Gap) : Fault := g.fault.read

/-- What one makes of it who skips the object. -/
def skip (g : Gap) : Fault := g.fault.skip

/-- What one makes of it who expects the closing brace here, and so refuses a comma. -/
def atClose (g : Gap) : Fault := if g.behindComma then .malformed else g.fault.read

end Gap

/-- A value as far as its text is well formed. -/
inductive Draft where
  | null
  | bool (b : Bool)
  /-- No number stands for one that is beyond all doubles. -/
  | num (n : Option Number)
  /-- No string stands for one with half of a surrogate pair. -/
  | str (s : Option String)
  /-- The items, and the fault in place of the closing bracket. -/
  | arr (items : List Draft) (stop : Option Fault)
  /-- The members, and the fault in place of the next member or the closing brace. -/
  | obj (members : List (Option String × Draft)) (stop : Option Gap)
  | broken (start : Onset) (b : Break)
  deriving Inhabited

namespace Draft

mutual
/-- The draft of a value. -/
def ofJson : Json → Draft
  | .null => .null
  | .bool b => .bool b
  | .num n => .num (some n)
  | .str s => .str (some s)
  | .arr items => .arr (ofItems items) none
  | .obj members => .obj (ofMembers members) none

def ofItems : List Json → List Draft
  | [] => []
  | v :: rest => ofJson v :: ofItems rest

def ofMembers : List (String × Json) → List (Option String × Draft)
  | [] => []
  | (name, v) :: rest => (some name, ofJson v) :: ofMembers rest
end

/-! ## faults of values that are skipped and of values that are read -/

mutual
/-- The first fault that one meets who skips the value. -/
def skipFault : Draft → Option Fault
  | .arr items stop => skipItems items stop
  | .obj members stop => skipMembers members (stop.map (·.skip))
  | .broken _ b => some b.skip
  | _ => none

def skipItems : List Draft → Option Fault → Option Fault
  | [], stop => stop
  | d :: rest, stop => (skipFault d).orElse fun _ => skipItems rest stop

def skipMembers : List (Option String × Draft) → Option Fault → Option Fault
  | [], stop => stop
  | (_, d) :: rest, stop => (skipFault d).orElse fun _ => skipMembers rest stop
end

/-- Values that are read may be nested in at most so many arrays and objects. -/
def deepest : Nat := 127

mutual
/-- The first fault that one meets who reads all of the value inside `depth` arrays and objects. -/
def readFault (depth : Nat) : Draft → Option Fault
  | .num none => some .malformed
  | .str none => some .malformed
  | .arr items stop => if deepest ≤ depth then some .malformed else readItemsFault (depth + 1) items stop
  | .obj members stop =>
    if deepest ≤ depth then some .malformed else readMembersFault (depth + 1) members (stop.map (·.read))
  | .broken _ b => some b.read
  | _ => none

def readItemsFault (depth : Nat) : List Draft → Option Fault → Option Fault
  | [], stop => stop
  | d :: rest, stop => (readFault depth d).orElse fun _ => readItemsFault depth rest stop

def readMembersFault (depth : Nat) : List (Option String × Draft) → Option Fault → Option Fault
  | [], stop => stop
  | (none, _) :: _, _ => some .malformed
  | (some _, d) :: rest, stop => (readFault depth d).orElse fun _ => readMembersFault depth rest stop
end

mutual
/-- The value of a draft that has no fault. Of members with one name the last value counts, at the first place. -/
def toJson : Draft → Except Fault Json
  | .null => .ok .null
  | .bool b => .ok (.bool b)
  | .num (some n) => .ok (.num n)
  | .num none => .error .malformed
  | .str (some s) => .ok (.str s)
  | .str none => .error .malformed
  | .arr items none => (toItems items).map .arr
  | .arr items (some f) => do let _ ← toItems items; .error f
  | .obj members none => (toMembers members).map fun ms => .ofMap (.ofList ms)
  | .obj members (some g) => do let _ ← toMembers members; .error g.read
  | .broken _ b => .error b.read

def toItems : List Draft → Except Fault (List Json)
  | [] => .ok []
  | d :: rest => do let v ← toJson d; let vs ← toItems rest; .ok (v :: vs)

def toMembers : List (Option String × Draft) → Except Fault (List (String × Json))
  | [] => .ok []
  | (none, _) :: _ => .error .malformed
  | (some name, d) :: rest => do let v ← toJson d; let vs ← toMembers rest; .ok ((name, v) :: vs)
end

end Draft

end ModelApi
