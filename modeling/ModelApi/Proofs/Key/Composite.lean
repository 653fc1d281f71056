import ModelApi.Key.Basic
import ModelApi.Proofs.Text.Join

/-!
# Composites of sort fields

A table knows its attributes by name only. Two or more sort fields go under one name, so this name has to tell which
fields they are, and must not be that of a field. Fields have no `#` in their names, and the name and the value of a
composite are cut at each `#` in one way.

* `split_compositeName`, `split_compositeValue`: name and value list the same fields in the same order;
* `hash_mem_compositeName`: no field has the name of a composite;
* `Key.sortAttribute?_eq_iff`: keys share the sort attribute when they have the same sort fields, and only then;
* `Key.names_attributes`: the attributes that a key defines are those that it consists of;
* `composites_unambiguous`: all of it about the texts.
-/

namespace ModelApi

open Text (split joinWith)

/-! ## names -/

/-- The fields of a composite are got back from its name. -/
theorem split_compositeName {fields : List String} (hne : fields ≠ []) (h : ∀ s ∈ fields, '#' ∉ s.toList) :
    split '#' (compositeName fields) = fields :=
  Text.split_joinWith hne h

theorem compositeName_eq_iff {fields others : List String} (hne : fields ≠ []) (hne' : others ≠ [])
    (h : ∀ s ∈ fields, '#' ∉ s.toList) (h' : ∀ s ∈ others, '#' ∉ s.toList) :
    compositeName fields = compositeName others ↔ fields = others := by
  constructor
  · intro heq
    rw [← split_compositeName hne h, heq, split_compositeName hne' h']
  · rintro rfl
    rfl

theorem hash_mem_compositeName {fields : List String} (h : 2 ≤ fields.length) :
    '#' ∈ (compositeName fields).toList := by
  obtain ⟨first, second, rest, rfl⟩ : ∃ first second rest, fields = first :: second :: rest := by
    rcases fields with _ | ⟨first, _ | ⟨second, rest⟩⟩
    · cases h
    · simp at h
    · exact ⟨first, second, rest, rfl⟩
  simp [compositeName, joinWith]

theorem compositeName_ne_name {fields : List String} (h : 2 ≤ fields.length) {name : String} (hname : '#' ∉ name.toList) :
    compositeName fields ≠ name :=
  fun heq => hname (heq ▸ hash_mem_compositeName h)

/-! ## values -/

theorem hash_notMem_compositePart {source field : String} (hsource : '#' ∉ source.toList) (hfield : '#' ∉ field.toList) :
    '#' ∉ (compositePart source field).toList := by
  simp [compositePart, hsource, hfield]

theorem split_compositeValue {source : String} {fields : List String} (hne : fields ≠ []) (hsource : '#' ∉ source.toList)
    (h : ∀ s ∈ fields, '#' ∉ s.toList) : split '#' (compositeValue source fields) = fields.map (compositePart source) := by
  refine Text.split_joinWith (fun hnil => hne (List.map_eq_nil_iff.1 hnil)) fun part hpart => ?_
  obtain ⟨field, hfield, rfl⟩ := List.mem_map.1 hpart
  exact hash_notMem_compositePart hsource (h field hfield)

/-! ## keys -/

/-- A sole sort field is the composite of itself. -/
theorem Key.sortAttribute?_eq_compositeName (k : Key) :
    k.sortAttribute? = if k.sortNames = [] then none else some (compositeName k.sortNames) := by
  obtain ⟨partition, sort⟩ := k
  rcases sort with _ | ⟨first, _ | ⟨second, rest⟩⟩ <;> rfl

/-- Keys share the sort attribute when they have the same sort fields, and only then. -/
theorem Key.sortAttribute?_eq_iff {k k' : Key} (h : ∀ s ∈ k.sortNames, '#' ∉ s.toList)
    (h' : ∀ s ∈ k'.sortNames, '#' ∉ s.toList) : k.sortAttribute? = k'.sortAttribute? ↔ k.sortNames = k'.sortNames := by
  rw [sortAttribute?_eq_compositeName, sortAttribute?_eq_compositeName]
  by_cases hne : k.sortNames = [] <;> by_cases hne' : k'.sortNames = []
  · simp [hne, hne']
  · simp [hne, hne', Ne.symm hne']
  · simp [hne, hne']
  · rw [if_neg hne, if_neg hne', Option.some.injEq, compositeName_eq_iff hne hne' h h']

theorem Key.names_elements (k : Key) : k.elements.map (·.name) = k.partition.name :: k.sortAttribute?.toList := by
  cases h : k.sortAttribute? <;> simp [elements, h]

/-- A key asks for the definitions of its own attributes, in their order. -/
theorem Key.names_attributes (doc : Schema.Document) (k : Key) :
    (k.attributes doc).map (·.name) = k.partition.name :: k.sortAttribute?.toList := by
  obtain ⟨partition, sort⟩ := k
  rcases sort with _ | ⟨first, _ | ⟨second, rest⟩⟩ <;> rfl

/-- Different lists of fields have different composites, none of two or more fields has the name of a field, and cut at
each mark, the name gives the fields and the value a reference to each of them in turn. -/
theorem composites_unambiguous (xs ys : List String) (hxs : xs ≠ []) (hys : ys ≠ [])
    (hx : ∀ x ∈ xs, '#' ∉ x.toList) (hy : ∀ y ∈ ys, '#' ∉ y.toList) :
    (compositeName xs = compositeName ys ↔ xs = ys) ∧
    (2 ≤ xs.length → ∀ name : String, '#' ∉ name.toList → compositeName xs ≠ name) ∧
    split '#' (compositeName xs) = xs ∧
    ∀ source : String, '#' ∉ source.toList →
      split '#' (compositeValue source xs) = xs.map fun x => "$\x7b" ++ source ++ "." ++ x ++ "\x7d" :=
  ⟨compositeName_eq_iff hxs hys hx hy, fun hlength _ hname => compositeName_ne_name hlength hname,
    split_compositeName hxs hx, fun _ hsource => split_compositeValue hxs hsource hx⟩

theorem status_date_unambiguous :
    compositeName ["status", "date"] ≠ compositeName ["date", "status"] ∧
    compositeName ["status", "date"] ≠ "statusDate" ∧
    split '#' (compositeName ["status", "date"]) = ["status", "date"] ∧
    split '#' (compositeValue "mergedValues" ["status", "date"]) =
      ["$\x7bmergedValues.status\x7d", "$\x7bmergedValues.date\x7d"] := by
  obtain ⟨hinj, hname, hsplit, hvalue⟩ :=
    composites_unambiguous ["status", "date"] ["date", "status"] (by decide) (by decide) (by decide) (by decide)
  exact ⟨fun heq => absurd (hinj.1 heq) (by decide), hname (by decide) _ (by decide), hsplit,
    (hvalue "mergedValues" (by decide)).trans (by decide)⟩

end ModelApi
