import ModelApi.Proofs.OrderedMap
import ModelApi.Proofs.Text.Join
import ModelApi.Table.Basic

/-!
# Replaying overrides

The overrides of a table write to *places*: a property, or an item of a list property.

* `Place.path` is the dotted path of a place, `Place.write` what a value at that place does to the properties;
* `effective_of_log`: a log of writes, kept as overrides, is replayed write by write;
* `replay_put`: a second write to the same property changes the outcome as if it were made last, although it keeps the
  position of the first one in the log.
-/

namespace ModelApi

open OrderedMap (find put)
open Text (toList_toString isDigit_of_mem_toString notMem_toString toString_injective)

namespace RawTable

/-! ## positions -/

theorem ofDigits_toString (n : Nat) : Number.ofDigits (toString n).toList = n := by
  have hf : (fun n c => n * 10 + Number.digitValue c) = fun (n : Nat) (c : Char) => 10 * n + (c.toNat - '0'.toNat) := by
    funext n c
    rw [Nat.mul_comm, Number.digitValue]
  unfold Number.ofDigits
  rw [hf, toList_toString, ← Nat.ofDigitChars_eq_foldl]
  exact Nat.ofDigitChars_ten_toDigits

/-- A position of 64 bits is read back as it is written. -/
theorem index?_toString {n : Nat} (h : n < UInt64.size) : index? (toString n) = some n := by
  have hplus : ∀ rest, (toString n).toList ≠ '+' :: rest := fun rest e =>
    notMem_toString (c := '+') (by decide) n (e ▸ List.mem_cons_self)
  have hall : (toString n).toList.all Char.isDigit = true :=
    List.all_eq_true.2 fun c hc => isDigit_of_mem_toString hc
  have hne : (toString n).toList.isEmpty = false := by simp
  unfold index?
  dsimp only
  split
  · rename_i rest e
    exact absurd e (hplus rest)
  · simp only [hne, hall, ofDigits_toString, h, Bool.not_true, Bool.or_self, Bool.false_eq_true, if_false, if_true]

/-! ## places -/

/-- A property, or a position in a list property. -/
structure Place where
  name : String
  position : Option Nat
  deriving DecidableEq

namespace Place

/-- The path of a place among the overrides. -/
def path : Place → String
  | ⟨name, none⟩ => "Properties." ++ name
  | ⟨name, some i⟩ => "Properties." ++ name ++ "." ++ toString i

/-- Sets an item of a list; what is no list gets a member. -/
def putItem (i : Nat) (value : Json) : Json → Json
  | .arr items => .arr (setItem items i fun _ => value)
  | node => .obj (put (toString i) value (membersOf node))

/-- The properties with a value at a place. A missing list property starts without items. -/
def write (p : Place) (value : Json) (members : List (String × Json)) : List (String × Json) :=
  match p.position with
  | none => put p.name value members
  | some i => put p.name (putItem i value ((find p.name members).getD (.arr []))) members

theorem split_path {p : Place} (h : '.' ∉ p.name.toList) :
    Text.split '.' p.path = "Properties" :: p.name :: (p.position.map toString).toList := by
  obtain ⟨name, position⟩ := p
  have hroot : '.' ∉ "Properties".toList := by decide
  have hdot : "Properties." = "Properties" ++ String.singleton '.' := by decide
  cases position with
  | none =>
    show Text.split '.' ("Properties." ++ name) = _
    rw [hdot, Text.split_append, Text.split_of_notMem hroot, Text.split_of_notMem h]
    rfl
  | some i =>
    show Text.split '.' ("Properties." ++ name ++ "." ++ toString i) = _
    have hi : '.' ∉ (toString i).toList := notMem_toString (by decide) i
    rw [hdot, show "." = String.singleton '.' by decide, Text.split_append, Text.split_append,
      Text.split_of_notMem hroot, Text.split_of_notMem h, Text.split_of_notMem hi]
    rfl

theorem path_injective {p q : Place} (hp : '.' ∉ p.name.toList) (hq : '.' ∉ q.name.toList) (h : p.path = q.path) :
    p = q := by
  have hs := split_path hp
  rw [h, split_path hq] at hs
  obtain ⟨name, position⟩ := p
  obtain ⟨name', position'⟩ := q
  simp only [List.cons.injEq, true_and] at hs
  obtain ⟨hn, hpos⟩ := hs
  subst hn
  cases position with
  | none =>
    cases position' with
    | none => rfl
    | some j => simp at hpos
  | some i =>
    cases position' with
    | none => simp at hpos
    | some j =>
      simp only [Option.map_some, Option.toList_some, List.cons.injEq, and_true] at hpos
      rw [toString_injective hpos]

theorem override_obj (value : Json) (segment : String) (rest : List String) (members : List (String × Json)) :
    override value (segment :: rest) (.obj members) =
      .obj (put segment (override value rest ((find segment members).getD (seed rest))) members) := by
  simp [override, membersOf]

/-- Within 64 bits, an override does to the properties what a write to its place does. -/
theorem overrideAt_path {p : Place} (value : Json) (members : List (String × Json)) (h : '.' ∉ p.name.toList)
    (hi : ∀ i, p.position = some i → i < UInt64.size) :
    overrideAt p.path value (.obj [("Properties", .obj members)]) =
      .obj [("Properties", .obj (p.write value members))] := by
  obtain ⟨name, position⟩ := p
  unfold overrideAt
  rw [split_path h]
  cases position with
  | none =>
    have hset : ∀ node, override value [] node = value := fun node => by rw [override]
    simp only [Option.map_none, Option.toList_none, override_obj, find, if_true, Option.getD_some, put, hset, write]
  | some i =>
    have hidx : index? (toString i) = some i := index?_toString (hi i rfl)
    have hitem : ∀ node, override value [toString i] node = putItem i value node := by
      intro node
      cases node <;> simp only [override, hidx, putItem, membersOf]
    have hseed : seed [toString i] = .arr [] := by simp only [seed, hidx, Option.isSome_some, if_true]
    simp only [Option.map_some, Option.toList_some, override_obj, find, if_true, Option.getD_some, put, hitem, hseed,
      write]

end Place

/-! ## logs -/

/-- The properties after the writes of a log. -/
def replay (log : List (Place × Json)) (members : List (String × Json)) : List (String × Json) :=
  log.foldl (fun members e => e.1.write e.2 members) members

/-- The overrides that hold a log. -/
def overridesOf (log : List (Place × Json)) : List (String × Json) := log.map fun e => (e.1.path, e.2)

theorem foldl_overrideAt_overridesOf : ∀ (log : List (Place × Json)) (members : List (String × Json)),
    (∀ e ∈ log, '.' ∉ e.1.name.toList ∧ ∀ i, e.1.position = some i → i < UInt64.size) →
    (overridesOf log).foldl (fun root e => overrideAt e.1 e.2 root) (.obj [("Properties", .obj members)]) =
      .obj [("Properties", .obj (replay log members))]
  | [], _, _ => rfl
  | e :: log, members, h => by
    obtain ⟨hdot, hi⟩ := h e List.mem_cons_self
    have ih := foldl_overrideAt_overridesOf log (e.1.write e.2 members) fun e' he' => h e' (List.mem_cons_of_mem _ he')
    simp only [overridesOf, List.map_cons, List.foldl_cons] at ih ⊢
    rw [Place.overrideAt_path e.2 members hdot hi, ih]
    rfl

/-- A log that is kept as overrides is replayed over the properties. -/
theorem effective_of_log {raw : RawTable} {log : List (Place × Json)} (hlog : raw.overrides.entries = overridesOf log)
    (h : ∀ e ∈ log, '.' ∉ e.1.name.toList ∧ ∀ i, e.1.position = some i → i < UInt64.size) :
    raw.effective = .ofList (replay log raw.properties.entries) := by
  unfold effective
  rw [hlog]
  have hroot := foldl_overrideAt_overridesOf log raw.properties.entries h
  simp only [Json.ofMap]
  rw [hroot]
  simp [Json.get?, find, membersOf]

/-- Without overrides the properties are what they are. -/
theorem effective_of_empty {raw : RawTable} (h : raw.overrides = .empty) : raw.effective = raw.properties := by
  have hlog : raw.overrides.entries = overridesOf [] := by rw [h]; rfl
  rw [effective_of_log hlog (by simp)]
  exact OrderedMap.ofList_entries raw.properties

theorem replay_append (log : List (Place × Json)) (e : Place × Json) (members : List (String × Json)) :
    replay (log ++ [e]) members = e.1.write e.2 (replay log members) := by
  simp [replay]

/-- A present property can be set before or after writes to other properties. -/
theorem put_replay {name : String} (value : Json) : ∀ (log : List (Place × Json)) (members : List (String × Json)),
    (∀ e ∈ log, e.1.name ≠ name) → (find name members).isSome →
    put name value (replay log members) = replay log (put name value members)
  | [], _, _, _ => rfl
  | e :: log, members, h, hp => by
    have hne : e.1.name ≠ name := h e List.mem_cons_self
    have hfind : find e.1.name (put name value members) = find e.1.name members := by
      rw [OrderedMap.find_put, if_neg hne]
    have hwrite : put name value (e.1.write e.2 members) = e.1.write e.2 (put name value members) := by
      unfold Place.write
      cases e.1.position <;> simp only [hfind] <;> exact OrderedMap.put_comm _ _ hne.symm hp
    have hpresent : (find name (e.1.write e.2 members)).isSome := by
      unfold Place.write
      cases e.1.position <;> simp only [OrderedMap.find_put, if_neg hne.symm, hp]
    have ih := put_replay value log (e.1.write e.2 members) (fun e' he' => h e' (List.mem_cons_of_mem _ he')) hpresent
    rw [hwrite] at ih
    exact ih

/-- A write to a property takes the place of an earlier one in the log and still counts as the last. -/
theorem replay_put {name : String} (value : Json) : ∀ (log : List (Place × Json)) (members : List (String × Json)),
    (log.map Prod.fst).Nodup → (∀ e ∈ log, e.1.name = name → e.1.position = none) →
    replay (put ⟨name, none⟩ value log) members = put name value (replay log members)
  | [], _, _, _ => rfl
  | (q, u) :: log, members, hn, h => by
    rw [List.map_cons, List.nodup_cons] at hn
    by_cases hq : q = ⟨name, none⟩
    · subst hq
      -- the property is written only here, so the new value may move behind the rest of the log
      have hother : ∀ e ∈ log, e.1.name ≠ name := by
        intro e he hname
        have hpos := h e (List.mem_cons_of_mem _ he) hname
        have heq : e.1 = ⟨name, none⟩ := by
          rw [← hname, ← hpos]
        exact hn.1 (List.mem_map.2 ⟨e, he, heq⟩)
      have hpresent : (find name (put name u members)).isSome := by simp [OrderedMap.find_put]
      have hmove := put_replay value log (put name u members) hother hpresent
      rw [OrderedMap.put_put] at hmove
      simp only [put, if_true]
      exact hmove.symm
    · have ih := replay_put value log (q.write u members) hn.2 fun e he => h e (List.mem_cons_of_mem _ he)
      simp only [put, hq, if_false]
      exact ih

/-- Setting an override is the same as writing to its place in the log. -/
theorem put_overridesOf {p : Place} (value : Json) (hp : '.' ∉ p.name.toList) : ∀ log : List (Place × Json),
    (∀ e ∈ log, '.' ∉ e.1.name.toList) → put p.path value (overridesOf log) = overridesOf (put p value log)
  | [], _ => rfl
  | (q, u) :: log, h => by
    have ih := put_overridesOf value hp log fun e he => h e (List.mem_cons_of_mem _ he)
    have hq : '.' ∉ q.name.toList := h (q, u) List.mem_cons_self
    by_cases heq : q = p
    · subst heq
      simp [overridesOf, put]
    · have hpath : q.path ≠ p.path := fun e => heq (Place.path_injective hq hp e)
      simp only [overridesOf, List.map_cons, put, hpath, heq, if_false, List.cons.injEq, true_and] at ih ⊢
      exact ih

end RawTable

end ModelApi
