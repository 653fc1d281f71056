/-!
# Readers

A reader takes something off the front of a text, or fails. Alternatives are tried in order and the first that fits is
taken; repetitions take as much as they can. Readers keep track of the place where they are.
-/

namespace ModelApi.Text

/-- A place in a text, counted from one. -/
structure Pos where
  line : Nat
  column : Nat
  deriving DecidableEq, Repr, Inhabited

/-- The rest of the text and the place where it starts. -/
structure Cursor where
  rest : List Char
  pos : Pos

/-- The place behind a character. A carriage return goes back to the first column of the same line. -/
def Pos.after (p : Pos) (c : Char) : Pos :=
  if c = '\n' then ⟨p.line + 1, 1⟩ else if c = '\r' then ⟨p.line, 1⟩ else ⟨p.line, p.column + 1⟩

/-- A reader takes something off the front of the text, or fails. -/
abbrev Reader := StateT Cursor Option

namespace Reader

/-- The place of the next character. -/
def here : Reader Pos := fun c => some (c.pos, c)

/-- One character that satisfies a condition. -/
def one (p : Char → Bool) : Reader Char := fun c =>
  match c.rest with
  | d :: rest => if p d then some (d, ⟨rest, c.pos.after d⟩) else none
  | [] => none

/-- The characters of a word. -/
def chars : List Char → Reader Unit
  | [] => pure ()
  | l :: ls => do let _ ← one (· == l); chars ls

/-- A word. -/
def word (s : String) : Reader Unit := chars s.toList

/-- Succeeds where the other reader fails, and takes nothing. -/
def absent {α : Type} (r : Reader α) : Reader Unit := fun c =>
  match r c with
  | some _ => none
  | none => some ((), c)

/-- The first alternative that fits. -/
def either {α : Type} (r s : Reader α) : Reader α := fun c =>
  match r c with
  | some result => some result
  | none => s c

/-- The first of several alternatives that fits. -/
def firstOf {α : Type} : List (Reader α) → Reader α
  | [] => fun _ => none
  | r :: rs => either r (firstOf rs)

/-- Something that may be missing. -/
def maybe {α : Type} (r : Reader α) : Reader (Option α) := either (do return some (← r)) (pure none)

/-- As many repetitions as fit, within a bound on their number. -/
def manyFuel {α : Type} (r : Reader α) : Nat → Reader (List α)
  | 0 => pure []
  | fuel + 1 => either (do let a ← r; let as ← manyFuel r fuel; return a :: as) (pure [])

/-- As many repetitions as fit; each of them takes at least one character. -/
def many {α : Type} (r : Reader α) : Reader (List α) := fun c => manyFuel r c.rest.length c

/-- At least one repetition. -/
def some1 {α : Type} (r : Reader α) : Reader (List α) := do
  let a ← r
  let as ← many r
  return a :: as

/-- The outcome of a reader that has to take the whole text. -/
def whole {α : Type} (r : Reader α) (text : String) : Option α :=
  match r ⟨text.toList, ⟨1, 1⟩⟩ with
  | some (a, ⟨[], _⟩) => some a
  | _ => none

end Reader

end ModelApi.Text
