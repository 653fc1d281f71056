import ModelApi.OrderedMap

/-!
# Laws of ordered maps

What `find`, `get?` and `keys` see of `insert`, `update`, `upsert` and `ofList`. The laws are stated on lists of entries
first, because object members are such lists too.
-/

namespace ModelApi.OrderedMap

variable {κ α : Type} [DecidableEq κ]

/-! ## entries -/

theorem find_put (k j : κ) (a : α) : ∀ l : List (κ × α), find j (put k a l) = if j = k then some a else find j l
  | [] => by simp only [put, find, eq_comm]
  | (i, b) :: rest => by
    by_cases hi : i = k
    · subst hi
      by_cases hj : j = i
      · simp [put, find, hj]
      · simp [put, find, hj, Ne.symm hj]
    · by_cases hij : i = j
      · subst hij
        simp [put, find, hi]
      · simp [put, find, hi, hij, find_put k j a rest]

theorem find_adjust (k j : κ) (f : α → α) : ∀ l : List (κ × α),
    find j (adjust k f l) = if j = k then (find j l).map f else find j l
  | [] => by simp [adjust, find]
  | (i, b) :: rest => by
    by_cases hi : i = k
    · subst hi
      by_cases hj : j = i
      · simp [adjust, find, hj]
      · simp [adjust, find, hj, Ne.symm hj]
    · by_cases hij : i = j
      · subst hij
        simp [adjust, find, hi]
      · simp [adjust, find, hi, hij, find_adjust k j f rest]

theorem find_isSome_iff (k : κ) : ∀ l : List (κ × α), (find k l).isSome ↔ k ∈ l.map Prod.fst
  | [] => by simp [find]
  | (j, b) :: rest => by
    by_cases h : j = k
    · simp [find, h]
    · have hk : ¬ k = j := fun e => h e.symm
      simp only [find, h, if_false, List.map_cons, List.mem_cons, hk, false_or]
      exact find_isSome_iff k rest

theorem find_eq_none_iff (k : κ) (l : List (κ × α)) : find k l = none ↔ k ∉ l.map Prod.fst := by
  rw [← find_isSome_iff, Option.not_isSome_iff_eq_none]

theorem mem_of_find {k : κ} {a : α} : ∀ {l : List (κ × α)}, find k l = some a → (k, a) ∈ l
  | [], h => by simp [find] at h
  | (j, b) :: rest, h => by
    by_cases hj : j = k
    · simp only [find, hj, if_true, Option.some.injEq] at h
      simp [hj, h]
    · simp only [find, hj, if_false] at h
      exact List.mem_cons_of_mem _ (mem_of_find h)

/-- Keys are distinct, so an entry is what its key finds. -/
theorem find_of_mem {k : κ} {a : α} : ∀ {l : List (κ × α)}, (l.map Prod.fst).Nodup → (k, a) ∈ l → find k l = some a
  | (j, b) :: rest, hn, h => by
    rw [List.map_cons, List.nodup_cons] at hn
    rcases List.mem_cons.1 h with he | hr
    · cases he
      simp [find]
    · have hj : j ≠ k := by
        rintro rfl
        exact hn.1 (List.mem_map.2 ⟨_, hr, rfl⟩)
      simp only [find, hj, if_false]
      exact find_of_mem hn.2 hr

theorem put_of_find_none {k : κ} {a : α} : ∀ {l : List (κ × α)}, find k l = none → put k a l = l ++ [(k, a)]
  | [], _ => rfl
  | (j, b) :: rest, h => by
    by_cases hj : j = k
    · simp [find, hj] at h
    · simp only [find, hj, if_false] at h
      simp [put, hj, put_of_find_none h]

theorem put_put (k : κ) (a b : α) : ∀ l : List (κ × α), put k a (put k b l) = put k a l
  | [] => by simp [put]
  | (j, c) :: rest => by by_cases h : j = k <;> simp [put, h, put_put k a b rest]

/-- A key that is present stays where it is, so the order of two changes does not matter. -/
theorem put_comm {k j : κ} (a b : α) (hkj : k ≠ j) : ∀ {l : List (κ × α)}, (find k l).isSome →
    put k a (put j b l) = put j b (put k a l)
  | [], h => by simp [find] at h
  | (i, c) :: rest, h => by
    by_cases hi : i = k
    · subst hi
      simp [put, hkj]
    · simp only [find, hi, if_false] at h
      by_cases hij : i = j
      · subst hij
        simp [put, hi]
      · simp [put, hi, hij, put_comm a b hkj h]

/-! ## maps -/

variable (m : OrderedMap κ α)

@[simp] theorem get?_empty (k : κ) : (empty : OrderedMap κ α).get? k = none := rfl

@[simp] theorem get?_insert (k j : κ) (a : α) : (m.insert k a).get? j = if j = k then some a else m.get? j :=
  find_put k j a m.entries

@[simp] theorem get?_update (k j : κ) (f : α → α) :
    (m.update k f).get? j = if j = k then (m.get? j).map f else m.get? j :=
  find_adjust k j f m.entries

@[simp] theorem get?_upsert (k j : κ) (f : Option α → α) :
    (m.upsert k f).get? j = if j = k then some (f (m.get? k)) else m.get? j := by
  simp [upsert]

theorem contains_iff (k : κ) : m.contains k = true ↔ k ∈ m.keys := find_isSome_iff k m.entries

theorem get?_eq_none_iff (k : κ) : m.get? k = none ↔ k ∉ m.keys := find_eq_none_iff k m.entries

theorem get?_of_mem {k : κ} {a : α} (h : (k, a) ∈ m.entries) : m.get? k = some a := find_of_mem m.nodup h

theorem mem_of_get? {k : κ} {a : α} (h : m.get? k = some a) : (k, a) ∈ m.entries := mem_of_find h

theorem mem_keys_of_get? {k : κ} {a : α} (h : m.get? k = some a) : k ∈ m.keys :=
  List.mem_map_of_mem (f := Prod.fst) (mem_of_get? m h)

@[simp] theorem keys_update (k : κ) (f : α → α) : (m.update k f).keys = m.keys := map_fst_adjust k f m.entries

theorem keys_insert (k : κ) (a : α) : (m.insert k a).keys = if k ∈ m.keys then m.keys else m.keys ++ [k] :=
  map_fst_put k a m.entries

theorem keys_insert_of_notMem {k : κ} (a : α) (h : k ∉ m.keys) : (m.insert k a).keys = m.keys ++ [k] := by
  rw [keys_insert, if_neg h]

theorem mem_keys_insert {k j : κ} {a : α} : j ∈ (m.insert k a).keys ↔ j = k ∨ j ∈ m.keys := by
  rw [keys_insert]
  by_cases h : k ∈ m.keys
  · rw [if_pos h]
    exact ⟨.inr, fun hj => hj.elim (fun e => e ▸ h) id⟩
  · rw [if_neg h, List.mem_append, List.mem_singleton, or_comm]

/-- The order of the keys and what is found under each of them are all of a map. -/
theorem ext_get? {n : OrderedMap κ α} (hkeys : m.keys = n.keys) (h : ∀ k ∈ m.keys, m.get? k = n.get? k) : m = n := by
  have hlist : ∀ l l' : List (κ × α), l.map Prod.fst = l'.map Prod.fst → (l.map Prod.fst).Nodup →
      (∀ k ∈ l.map Prod.fst, find k l = find k l') → l = l' := by
    intro l
    induction l with
    | nil => exact fun l' hl' _ _ => (List.map_eq_nil_iff.1 hl'.symm).symm
    | cons e l ih =>
      intro l' hl' hn hfind
      obtain ⟨⟨k, a⟩, rest, rfl, hk, hrest⟩ := List.map_eq_cons_iff.1 hl'.symm
      obtain ⟨j, b⟩ := e
      obtain rfl : k = j := hk
      rw [List.map_cons, List.nodup_cons] at hn
      have hvalue : b = a := by simpa [find] using hfind k List.mem_cons_self
      have hlater : l = rest := by
        refine ih rest hrest.symm hn.2 fun i hi => ?_
        have hne : k ≠ i := fun heq => hn.1 (heq ▸ hi)
        simpa [find, hne] using hfind i (List.mem_cons_of_mem _ hi)
      rw [hvalue, hlater]
  exact ext (hlist m.entries n.entries hkeys m.nodup h)

/-- What only the value of one key contributes. -/
theorem flatMap_values {β : Type} {f : α → List β} (k : κ) (h : ∀ j a, m.get? j = some a → j ≠ k → f a = []) :
    m.values.flatMap f = (m.get? k).toList.flatMap f := by
  have hlist : ∀ l : List (κ × α), (l.map Prod.fst).Nodup → (∀ e ∈ l, e.1 ≠ k → f e.2 = []) →
      (l.map Prod.snd).flatMap f = (find k l).toList.flatMap f := by
    intro l
    induction l with
    | nil => simp [find]
    | cons e l ih =>
      intro hn hl
      obtain ⟨j, a⟩ := e
      rw [List.map_cons, List.nodup_cons] at hn
      have hrest := ih hn.2 fun e he => hl e (List.mem_cons_of_mem _ he)
      by_cases hj : j = k
      · subst hj
        have hnone : find j l = none := (find_eq_none_iff j l).2 hn.1
        rw [hnone] at hrest
        simpa [find] using hrest
      · have hskip : f a = [] := hl (j, a) List.mem_cons_self hj
        simpa [find, hj, hskip] using hrest
  exact hlist m.entries m.nodup fun e he => h e.1 e.2 (get?_of_mem m he)

/-! ## maps from lists -/

theorem entries_foldl_insert : ∀ (l : List (κ × α)) (m : OrderedMap κ α), (m.keys ++ l.map Prod.fst).Nodup →
    (l.foldl (fun m e => m.insert e.1 e.2) m).entries = m.entries ++ l
  | [], m, _ => by simp
  | (k, a) :: rest, m, h => by
    have hk : k ∉ m.keys := by
      intro hm
      exact (List.nodup_append.1 h).2.2 k hm k (by simp) rfl
    have he : (m.insert k a).entries = m.entries ++ [(k, a)] :=
      put_of_find_none ((get?_eq_none_iff m k).2 hk)
    have hn : ((m.insert k a).keys ++ rest.map Prod.fst).Nodup := by
      rw [keys_insert_of_notMem m a hk, List.append_assoc]
      exact h
    rw [List.foldl_cons, entries_foldl_insert rest _ hn, he, List.append_assoc]
    rfl

/-- A list that gives every key the same value each time. -/
theorem get?_ofList_map (f : κ → α) (l : List κ) (k : κ) :
    (ofList (l.map fun j => (j, f j))).get? k = if k ∈ l then some (f k) else none := by
  have hfold : ∀ m : OrderedMap κ α, ((l.map fun j => (j, f j)).foldl (fun m e => m.insert e.1 e.2) m).get? k =
      if k ∈ l then some (f k) else m.get? k := by
    induction l with
    | nil => simp
    | cons j l ih =>
      intro m
      rw [List.map_cons, List.foldl_cons, ih, get?_insert]
      by_cases hl : k ∈ l
      · simp [hl]
      · by_cases hj : k = j
        · simp [hj]
        · simp [hl, hj]
  exact hfold empty

/-- Pairs with distinct keys are the entries of the map that they build. -/
theorem entries_ofList {l : List (κ × α)} (h : (l.map Prod.fst).Nodup) : (ofList l).entries = l := by
  have he := entries_foldl_insert l empty (by simpa [keys, empty] using h)
  simpa [ofList, empty] using he

/-- A map is what its entries build. -/
theorem ofList_entries : ofList m.entries = m := ext (entries_ofList m.nodup)

end ModelApi.OrderedMap
