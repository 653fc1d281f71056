/-!
# Maps that remember the order of insertion

* `OrderedMap κ α` lists its entries in the order in which their keys were first inserted; keys are distinct;
* `insert` on a present key replaces the value and keeps the position; on a new key it appends;
* `update` changes the value of a present key and does nothing otherwise; `upsert` also appends a new key.
-/

namespace ModelApi

/-- Entries in insertion order, with distinct keys. -/
structure OrderedMap (κ α : Type) where
  entries : List (κ × α)
  nodup : (entries.map Prod.fst).Nodup

namespace OrderedMap

variable {κ α β : Type}

/-- Two maps with the same entries are the same map. -/
theorem ext {m n : OrderedMap κ α} (h : m.entries = n.entries) : m = n := by
  cases m; cases n; cases h; rfl

instance [DecidableEq κ] [DecidableEq α] : DecidableEq (OrderedMap κ α) := fun m n =>
  if h : m.entries = n.entries then isTrue (ext h) else isFalse fun e => h (congrArg entries e)

/-- The map without entries. -/
def empty : OrderedMap κ α := ⟨[], .nil⟩

instance : EmptyCollection (OrderedMap κ α) := ⟨empty⟩
instance : Inhabited (OrderedMap κ α) := ⟨empty⟩

/-- The keys, in insertion order. -/
def keys (m : OrderedMap κ α) : List κ := m.entries.map Prod.fst

/-- The values, in the order of their keys. -/
def values (m : OrderedMap κ α) : List α := m.entries.map Prod.snd

/-- The number of entries. -/
def size (m : OrderedMap κ α) : Nat := m.entries.length

def isEmpty (m : OrderedMap κ α) : Bool := m.entries.isEmpty

/-! ## looking up and changing -/

variable [DecidableEq κ]

/-- The value of the first entry with key `k`. -/
def find (k : κ) : List (κ × α) → Option α
  | [] => none
  | (j, a) :: rest => if j = k then some a else find k rest

/-- Replaces the value of `k` in place, or appends the entry. -/
def put (k : κ) (a : α) : List (κ × α) → List (κ × α)
  | [] => [(k, a)]
  | (j, b) :: rest => if j = k then (j, a) :: rest else (j, b) :: put k a rest

/-- Applies `f` to the value of `k`. -/
def adjust (k : κ) (f : α → α) : List (κ × α) → List (κ × α)
  | [] => []
  | (j, b) :: rest => if j = k then (j, f b) :: rest else (j, b) :: adjust k f rest

theorem map_fst_put (k : κ) (a : α) : ∀ l : List (κ × α),
    (put k a l).map Prod.fst = if k ∈ l.map Prod.fst then l.map Prod.fst else l.map Prod.fst ++ [k]
  | [] => by simp [put]
  | (j, b) :: rest => by
    by_cases h : j = k
    · simp [put, h]
    · have hk : ¬ k = j := fun e => h e.symm
      simp only [put, h, if_false, List.map_cons, map_fst_put k a rest, List.mem_cons, hk, false_or]
      split <;> rfl

theorem map_fst_adjust (k : κ) (f : α → α) : ∀ l : List (κ × α), (adjust k f l).map Prod.fst = l.map Prod.fst
  | [] => rfl
  | (j, b) :: rest => by by_cases h : j = k <;> simp [adjust, h, map_fst_adjust k f rest]

theorem nodup_put (k : κ) (a : α) {l : List (κ × α)} (h : (l.map Prod.fst).Nodup) :
    ((put k a l).map Prod.fst).Nodup := by
  rw [map_fst_put]
  split
  · exact h
  · rename_i hk
    refine List.nodup_append.2 ⟨h, by simp, ?_⟩
    intro x hx y hy
    rw [List.mem_singleton] at hy
    subst hy
    exact fun e => hk (e ▸ hx)

/-- The value of a key. -/
def get? (m : OrderedMap κ α) (k : κ) : Option α := find k m.entries

/-- Whether a key is present. -/
def contains (m : OrderedMap κ α) (k : κ) : Bool := (m.get? k).isSome

/-- Sets the value of a key: a present key keeps its position, a new one goes last. -/
def insert (m : OrderedMap κ α) (k : κ) (a : α) : OrderedMap κ α := ⟨put k a m.entries, nodup_put k a m.nodup⟩

/-- Changes the value of a present key. -/
def update (m : OrderedMap κ α) (k : κ) (f : α → α) : OrderedMap κ α :=
  ⟨adjust k f m.entries, by rw [map_fst_adjust]; exact m.nodup⟩

/-- Sets the value of a key from its present value, if any. -/
def upsert (m : OrderedMap κ α) (k : κ) (f : Option α → α) : OrderedMap κ α := m.insert k (f (m.get? k))

/-- The map that results from inserting the pairs one after the other. -/
def ofList (l : List (κ × α)) : OrderedMap κ α := l.foldl (fun m e => m.insert e.1 e.2) empty

end OrderedMap

end ModelApi
