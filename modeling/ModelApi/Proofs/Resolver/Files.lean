import Mathlib.Data.List.Nodup
import ModelApi.Proofs.OrderedMap
import ModelApi.Proofs.Text.Join
import ModelApi.Resolver.Basic

/-!
# The files of a registry

A template stands at a place: a resolver, the main stage or a position of a slot, and a side. Its file is named after
the place, with a dot between each two pieces. As long as the names of types and fields have no dot, the pieces are got
back from the name, so no template takes the file of another.

* `TemplatePlace.fileName_injective`: places of plain resolvers with one file name are one place;
* `Registry.mem_placed`: the list of all templates with their places, which `files` names, is `template?`;
* `Registry.files_faithful`: the files are the templates, each under the name of its place, and none is missing.
-/

namespace ModelApi

open Text (joinWith split split_joinWith toString_injective notMem_toString)

/-! ## places -/

/-- The sides of a template. -/
inductive Side where
  | request | response
  deriving DecidableEq, Repr

namespace Side

def all : List Side := [.request, .response]

def label : Side → String
  | .request => "req"
  | .response => "res"

theorem label_injective {a b : Side} (h : a.label = b.label) : a = b := by
  revert h
  cases a <;> cases b <;> decide

end Side

theorem Slot.name_injective {a b : Slot} (h : a.name = b.name) : a = b := by
  revert h
  cases a <;> cases b <;> decide

/-- Where a template stands. Outside the main stage that is a slot and a position in it, counted from one. -/
structure TemplatePlace where
  key : ResolverKey
  slot : Option (Slot × Nat)
  side : Side
  deriving DecidableEq, Repr

/-- There is no dot in the names of the type and the field. -/
def ResolverKey.Plain (key : ResolverKey) : Prop := '.' ∉ key.typeName.toList ∧ '.' ∉ key.fieldName.toList

instance (key : ResolverKey) : Decidable key.Plain := inferInstanceAs (Decidable (_ ∧ _))

namespace TemplatePlace

/-- The pieces of the file name: `Type`, `field`, the slot and the position unless it is the main stage, the side. -/
def pieces (p : TemplatePlace) : List String :=
  [p.key.typeName, p.key.fieldName] ++ (p.slot.toList.flatMap fun place => [place.1.name, toString place.2]) ++
    [p.side.label, "vtl"]

/-- The file that the template at a place is written to. -/
def fileName (p : TemplatePlace) : String := joinWith "." p.pieces

theorem dot_notMem_pieces {p : TemplatePlace} (h : p.key.Plain) : ∀ s ∈ p.pieces, '.' ∉ s.toList := by
  obtain ⟨key, slot, side⟩ := p
  have hslot : ∀ slot : Slot, '.' ∉ slot.name.toList := by intro slot; cases slot <;> decide
  have hside : '.' ∉ side.label.toList := by cases side <;> decide
  intro s hs
  cases slot with
  | none =>
    simp only [pieces, Option.toList_none, List.flatMap_nil, List.append_nil, List.cons_append, List.nil_append,
      List.mem_cons, List.not_mem_nil, or_false] at hs
    rcases hs with rfl | rfl | rfl | rfl
    · exact h.1
    · exact h.2
    · exact hside
    · decide
  | some position =>
    simp only [pieces, Option.toList_some, List.flatMap_cons, List.flatMap_nil, List.append_nil, List.cons_append,
      List.nil_append, List.mem_cons, List.not_mem_nil, or_false] at hs
    rcases hs with rfl | rfl | rfl | rfl | rfl | rfl
    · exact h.1
    · exact h.2
    · exact hslot _
    · exact notMem_toString (by decide) _
    · exact hside
    · decide

/-- The pieces of a file name are what stands between its dots. -/
theorem split_fileName {p : TemplatePlace} (h : p.key.Plain) : split '.' p.fileName = p.pieces :=
  split_joinWith (by simp [pieces]) (dot_notMem_pieces h)

theorem pieces_injective {p q : TemplatePlace} (h : p.pieces = q.pieces) : p = q := by
  obtain ⟨⟨type, field⟩, slot, side⟩ := p
  obtain ⟨⟨type', field'⟩, slot', side'⟩ := q
  -- a name has four pieces at the main stage and six in a slot, so the stages agree
  rcases slot with _ | ⟨slot, n⟩ <;> rcases slot' with _ | ⟨slot', n'⟩
  · simp only [pieces, Option.toList_none, List.flatMap_nil, List.append_nil, List.cons_append, List.nil_append,
      List.cons.injEq, and_true] at h
    obtain ⟨rfl, rfl, hside⟩ := h
    rw [Side.label_injective hside]
  · exact absurd (congrArg List.length h) (by simp [pieces])
  · exact absurd (congrArg List.length h) (by simp [pieces])
  · simp only [pieces, Option.toList_some, List.flatMap_cons, List.flatMap_nil, List.append_nil, List.cons_append,
      List.nil_append, List.cons.injEq, and_true] at h
    obtain ⟨rfl, rfl, hslot, hn, hside⟩ := h
    rw [Slot.name_injective hslot, toString_injective hn, Side.label_injective hside]

theorem fileName_injective {p q : TemplatePlace} (hp : p.key.Plain) (hq : q.key.Plain)
    (h : p.fileName = q.fileName) : p = q := by
  apply pieces_injective
  rw [← split_fileName hp, ← split_fileName hq, h]

end TemplatePlace

/-! ## the template at a place -/

/-- One side of a template of a slot. -/
def SlotTemplate.side? (t : SlotTemplate) : Side → Option String
  | .request => t.request
  | .response => t.response

/-- A main template, or a side of the template at a position of a slot. -/
def Resolver.template? (r : Resolver) : Option (Slot × Nat) → Side → Option String
  | none, .request => some r.request
  | none, .response => some r.response
  | some (_, 0), _ => none
  | some (slot, n + 1), side => (r.slots.get slot)[n]?.bind (·.side? side)

/-- The template at a place. -/
def Registry.template? (r : Registry) (p : TemplatePlace) : Option String :=
  (r.get? p.key).bind (·.template? p.slot p.side)

/-- The requests and responses that the templates in the slots have. -/
def Resolver.slotTexts (r : Resolver) : List String :=
  Slot.all.flatMap fun slot => (r.slots.get slot).flatMap fun t => t.request.toList ++ t.response.toList

/-! ## all templates with their places -/

/-- The sides of a template of a slot. -/
def SlotTemplate.placed (key : ResolverKey) (slot : Slot) (position : Nat) (t : SlotTemplate) :
    List (TemplatePlace × String) :=
  Side.all.flatMap fun side => (t.side? side).toList.map fun text => (⟨key, some (slot, position), side⟩, text)

/-- The templates of a slot. -/
def Resolver.placedIn (key : ResolverKey) (r : Resolver) (slot : Slot) : List (TemplatePlace × String) :=
  ((r.slots.get slot).zipIdx 1).flatMap fun e => e.1.placed key slot e.2

/-- The templates of a resolver. -/
def Resolver.placed (key : ResolverKey) (r : Resolver) : List (TemplatePlace × String) :=
  [(⟨key, none, .request⟩, r.request), (⟨key, none, .response⟩, r.response)] ++ Slot.all.flatMap (r.placedIn key)

/-- The templates of all resolvers. -/
def Registry.placed (r : Registry) : List (TemplatePlace × String) := r.entries.flatMap fun e => e.2.placed e.1

/-- A template and its place as a file and its name. -/
def TemplatePlace.file (e : TemplatePlace × String) : String × String := (e.1.fileName, e.2)

/-! ### they are the files -/

theorem TemplatePlace.fileName_main (key : ResolverKey) (side : Side) :
    fileName ⟨key, none, side⟩ = key.text ++ ("." ++ side.label ++ ".vtl") := by
  simp only [fileName, pieces, Option.toList_none, List.flatMap_nil, List.append_nil, List.cons_append,
    List.nil_append, joinWith, ResolverKey.text, String.append_assoc]
  rfl

theorem TemplatePlace.fileName_slot (key : ResolverKey) (slot : Slot) (n : Nat) (side : Side) :
    fileName ⟨key, some (slot, n), side⟩ =
      key.text ++ "." ++ slot.name ++ "." ++ toString n ++ ("." ++ side.label ++ ".vtl") := by
  simp only [fileName, pieces, Option.toList_some, List.flatMap_cons, List.flatMap_nil, List.append_nil,
    List.cons_append, List.nil_append, joinWith, ResolverKey.text, String.append_assoc]
  rfl

/-- The files of a template in a slot are those of its sides. -/
theorem SlotTemplate.map_placed (key : ResolverKey) (slot : Slot) (n : Nat) (t : SlotTemplate) :
    (t.placed key slot n).map TemplatePlace.file = Resolver.slotFiles key.text slot n t := by
  obtain ⟨request, response⟩ := t
  have hreq : "." ++ Side.label .request ++ ".vtl" = ".req.vtl" := rfl
  have hres : "." ++ Side.label .response ++ ".vtl" = ".res.vtl" := rfl
  cases request <;> cases response <;>
    simp [placed, Side.all, side?, Resolver.slotFiles, TemplatePlace.file, TemplatePlace.fileName_slot, hreq, hres]

theorem Resolver.map_placedIn (key : ResolverKey) (r : Resolver) (slot : Slot) :
    (r.placedIn key slot).map TemplatePlace.file = slotFilesFrom key.text slot 1 (r.slots.get slot) := by
  have hfrom : ∀ (ts : List SlotTemplate) (n : Nat),
      ((ts.zipIdx n).flatMap fun e => e.1.placed key slot e.2).map TemplatePlace.file =
        slotFilesFrom key.text slot n ts := by
    intro ts
    induction ts with
    | nil => exact fun _ => rfl
    | cons t rest ih =>
      intro n
      rw [List.zipIdx_cons, List.flatMap_cons, List.map_append, ih, SlotTemplate.map_placed, slotFilesFrom]
  exact hfrom _ 1

theorem Resolver.map_placed (key : ResolverKey) (r : Resolver) :
    (r.placed key).map TemplatePlace.file = r.files key := by
  have hslots : (Slot.all.flatMap (r.placedIn key)).map TemplatePlace.file =
      Slot.all.flatMap fun slot => slotFilesFrom key.text slot 1 (r.slots.get slot) := by
    rw [List.map_flatMap]
    exact List.flatMap_congr fun slot _ => r.map_placedIn key slot
  rw [placed, files, List.map_append, hslots]
  simp only [List.map_cons, List.map_nil, TemplatePlace.file, TemplatePlace.fileName_main]
  rfl

theorem Registry.files_eq (r : Registry) : r.files = .ofList (r.placed.map TemplatePlace.file) := by
  rw [placed, List.map_flatMap, files]
  simp only [Resolver.map_placed]

/-! ### they are what the places hold -/

theorem SlotTemplate.mem_placed {key : ResolverKey} {slot : Slot} {n : Nat} {t : SlotTemplate}
    {e : TemplatePlace × String} : e ∈ t.placed key slot n ↔
      e.1.key = key ∧ e.1.slot = some (slot, n) ∧ t.side? e.1.side = some e.2 := by
  obtain ⟨⟨key', slot', side⟩, text⟩ := e
  have hall : side ∈ Side.all := by cases side <;> decide
  simp only [placed, List.mem_flatMap, List.mem_map, Option.mem_toList, Prod.mk.injEq, TemplatePlace.mk.injEq]
  constructor
  · rintro ⟨side, -, text, htext, ⟨rfl, rfl, rfl⟩, rfl⟩
    exact ⟨rfl, rfl, htext⟩
  · rintro ⟨rfl, rfl, htext⟩
    exact ⟨side, hall, text, htext, ⟨rfl, rfl, rfl⟩, rfl⟩

theorem Resolver.mem_placedIn {key : ResolverKey} {r : Resolver} {slot : Slot} {e : TemplatePlace × String} :
    e ∈ r.placedIn key slot ↔
      e.1.key = key ∧ ∃ n, e.1.slot = some (slot, n) ∧ r.template? (some (slot, n)) e.1.side = some e.2 := by
  simp only [placedIn, List.mem_flatMap, SlotTemplate.mem_placed]
  constructor
  · rintro ⟨⟨t, n⟩, ht, hkey, hslot, hside⟩
    obtain ⟨hn, ht⟩ := List.mk_mem_zipIdx_iff_le_and_getElem?_sub.1 ht
    obtain ⟨n, rfl⟩ : ∃ m, n = m + 1 := ⟨n - 1, by omega⟩
    refine ⟨hkey, n + 1, hslot, ?_⟩
    rw [Nat.add_sub_cancel] at ht
    simpa [template?, ht] using hside
  · rintro ⟨hkey, n, hslot, hside⟩
    cases n with
    | zero => cases hside
    | succ n =>
      obtain ⟨t, ht, hside⟩ := Option.bind_eq_some_iff.1 hside
      exact ⟨(t, n + 1), List.mk_mem_zipIdx_iff_le_and_getElem?_sub.2 ⟨by omega, by simpa using ht⟩, hkey, hslot, hside⟩

theorem Resolver.mem_placed {key : ResolverKey} {r : Resolver} {e : TemplatePlace × String} :
    e ∈ r.placed key ↔ e.1.key = key ∧ r.template? e.1.slot e.1.side = some e.2 := by
  obtain ⟨⟨key', slot, side⟩, text⟩ := e
  simp only [placed, List.mem_append, List.mem_flatMap, mem_placedIn]
  rcases slot with _ | ⟨slot, n⟩
  · cases side <;> simp [template?, eq_comm]
  · have hall : slot ∈ Slot.all := by cases slot <;> decide
    constructor
    · rintro (h | ⟨slot', -, hkey, n', hslot, htext⟩)
      · simp at h
      · cases hslot
        exact ⟨hkey, htext⟩
    · rintro ⟨hkey, htext⟩
      exact .inr ⟨slot, hall, hkey, n, rfl, htext⟩

/-- The list holds a template at a place exactly when the registry does. -/
theorem Registry.mem_placed {r : Registry} {e : TemplatePlace × String} :
    e ∈ r.placed ↔ r.template? e.1 = some e.2 := by
  simp only [placed, List.mem_flatMap, Resolver.mem_placed, template?, Option.bind_eq_some_iff]
  constructor
  · rintro ⟨⟨key, resolver⟩, hmem, rfl, htext⟩
    exact ⟨resolver, OrderedMap.get?_of_mem r hmem, htext⟩
  · rintro ⟨resolver, hget, htext⟩
    exact ⟨(e.1.key, resolver), OrderedMap.mem_of_get? r hget, rfl, htext⟩

/-! ### no place is listed twice -/

/-- Lists whose places carry different tags put one after the other. -/
theorem nodup_places {α γ : Type} {l : List α} {f : α → List (TemplatePlace × String)} (tag : TemplatePlace → γ)
    (name : α → γ) (hnames : (l.map name).Nodup) (htag : ∀ a ∈ l, ∀ e ∈ f a, tag e.1 = name a)
    (hf : ∀ a ∈ l, ((f a).map Prod.fst).Nodup) : ((l.flatMap f).map Prod.fst).Nodup := by
  rw [List.map_flatMap, List.nodup_flatMap]
  refine ⟨hf, (List.pairwise_map.1 hnames).imp_of_mem fun {a b} ha hb hne => ?_⟩
  rintro p hpa hpb
  obtain ⟨e, he, rfl⟩ := List.mem_map.1 hpa
  obtain ⟨e', he', hp⟩ := List.mem_map.1 hpb
  apply hne
  calc name a = tag e.1 := (htag a ha e he).symm
    _ = tag e'.1 := by rw [hp]
    _ = name b := htag b hb e' he'

theorem SlotTemplate.nodup_placed (key : ResolverKey) (slot : Slot) (n : Nat) (t : SlotTemplate) :
    ((t.placed key slot n).map Prod.fst).Nodup := by
  refine nodup_places TemplatePlace.side id (by decide) ?_ ?_
  · intro side _ e he
    obtain ⟨text, -, rfl⟩ := List.mem_map.1 he
    rfl
  · intro side _
    cases t.side? side <;> simp

theorem Resolver.nodup_placedIn (key : ResolverKey) (r : Resolver) (slot : Slot) :
    ((r.placedIn key slot).map Prod.fst).Nodup := by
  refine nodup_places (fun p => p.slot.map Prod.snd) (fun e => some e.2) ?_ ?_ fun e _ => e.1.nodup_placed key slot e.2
  · have hpositions : ((r.slots.get slot).zipIdx 1).map (fun e => some e.2) =
        (List.range' 1 (r.slots.get slot).length).map some := by
      rw [← List.zipIdx_map_snd, List.map_map]
      rfl
    rw [hpositions]
    exact List.Nodup.map (fun _ _ => Option.some.inj) List.nodup_range'
  · intro e _ e' he'
    rw [(SlotTemplate.mem_placed.1 he').2.1]
    rfl

theorem Resolver.nodup_placed (key : ResolverKey) (r : Resolver) : ((r.placed key).map Prod.fst).Nodup := by
  rw [placed, List.map_append, List.nodup_append]
  refine ⟨by simp, ?_, ?_⟩
  · refine nodup_places (fun p => p.slot.map Prod.fst) some (by decide) ?_ fun slot _ => r.nodup_placedIn key slot
    intro slot _ e he
    obtain ⟨-, n, hslot, -⟩ := mem_placedIn.1 he
    rw [hslot]
    rfl
  · -- the main templates stand in no slot
    rintro p hp q hq rfl
    obtain ⟨e, he, rfl⟩ := List.mem_map.1 hq
    obtain ⟨slot, -, he⟩ := List.mem_flatMap.1 he
    obtain ⟨-, n, hslot, -⟩ := mem_placedIn.1 he
    have hmain : e.1.slot = none := by
      simp only [List.map_cons, List.map_nil, List.mem_cons, List.not_mem_nil, or_false] at hp
      rcases hp with hp | hp <;> rw [hp]
    rw [hmain] at hslot
    cases hslot

theorem Registry.nodup_placed (r : Registry) : (r.placed.map Prod.fst).Nodup :=
  nodup_places TemplatePlace.key Prod.fst r.nodup (fun _ _ _ he => (Resolver.mem_placed.1 he).1)
    fun e _ => e.2.nodup_placed e.1

/-! ### how many they are -/

theorem SlotTemplate.texts_placed (key : ResolverKey) (slot : Slot) (n : Nat) (t : SlotTemplate) :
    (t.placed key slot n).map Prod.snd = t.request.toList ++ t.response.toList := by
  simp [placed, Side.all, side?, Function.comp_def]

theorem Resolver.texts_placedIn (key : ResolverKey) (r : Resolver) (slot : Slot) :
    (r.placedIn key slot).map Prod.snd =
      (r.slots.get slot).flatMap fun t => t.request.toList ++ t.response.toList := by
  simp only [placedIn, List.map_flatMap, SlotTemplate.texts_placed]
  conv_rhs => rw [← List.zipIdx_map_fst 1 (r.slots.get slot), List.flatMap_map]

theorem Resolver.length_placed (key : ResolverKey) (r : Resolver) :
    (r.placed key).length = 2 + r.slotTexts.length := by
  have htexts : (Slot.all.flatMap (r.placedIn key)).map Prod.snd = r.slotTexts := by
    simp only [List.map_flatMap, texts_placedIn]
    rfl
  have hslots : (Slot.all.flatMap (r.placedIn key)).length = r.slotTexts.length := by
    rw [← htexts, List.length_map]
  rw [placed, List.length_append, hslots]
  rfl

theorem Registry.length_placed (r : Registry) :
    r.placed.length = 2 * r.size + (r.values.flatMap Resolver.slotTexts).length := by
  have hlist : ∀ l : List (ResolverKey × Resolver), (l.flatMap fun e => e.2.placed e.1).length =
      2 * l.length + ((l.map Prod.snd).flatMap Resolver.slotTexts).length := by
    intro l
    induction l with
    | nil => rfl
    | cons e l ih =>
      simp only [List.flatMap_cons, List.map_cons, List.length_append, List.length_cons, Resolver.length_placed, ih]
      omega
  exact hlist r.entries

/-! ## the files -/

theorem Registry.plain_of_template {r : Registry} (h : ∀ key ∈ r.keys, key.Plain) {p : TemplatePlace}
    (hp : (r.template? p).isSome) : p.key.Plain := by
  obtain ⟨text, htext⟩ := Option.isSome_iff_exists.1 hp
  obtain ⟨resolver, hget, -⟩ := Option.bind_eq_some_iff.1 htext
  exact h _ (OrderedMap.mem_keys_of_get? r hget)

/-- No file name is used twice, so the map has all templates. -/
theorem Registry.entries_files {r : Registry} (h : ∀ key ∈ r.keys, key.Plain) :
    r.files.entries = r.placed.map TemplatePlace.file := by
  rw [files_eq]
  apply OrderedMap.entries_ofList
  have hnames : (r.placed.map TemplatePlace.file).map Prod.fst = (r.placed.map Prod.fst).map (·.fileName) := by
    simp only [List.map_map]
    rfl
  have hplain : ∀ p ∈ r.placed.map Prod.fst, p.key.Plain := by
    intro p hp
    obtain ⟨e, he, rfl⟩ := List.mem_map.1 hp
    exact plain_of_template h (Option.isSome_iff_exists.2 ⟨_, mem_placed.1 he⟩)
  rw [hnames]
  exact r.nodup_placed.map_on fun p hp q hq => TemplatePlace.fileName_injective (hplain p hp) (hplain q hq)

/-- Templates at different places have different files, each is found under its own name, there are no other files, and
there are two for each resolver and one for each side of a template in a slot. -/
theorem Registry.files_faithful (r : Registry) (h : ∀ key ∈ r.keys, key.Plain) :
    (∀ p q, (r.template? p).isSome → (r.template? q).isSome → p.fileName = q.fileName → p = q) ∧
    (∀ p text, r.template? p = some text → r.files.get? p.fileName = some text) ∧
    (∀ name text, r.files.get? name = some text → ∃ p, r.template? p = some text ∧ p.fileName = name) ∧
    r.files.size = 2 * r.size + (r.values.flatMap Resolver.slotTexts).length := by
  refine ⟨?_, ?_, ?_, ?_⟩
  · intro p q hp hq
    exact TemplatePlace.fileName_injective (plain_of_template h hp) (plain_of_template h hq)
  · intro p text hp
    apply OrderedMap.get?_of_mem
    rw [entries_files h]
    exact List.mem_map.2 ⟨(p, text), mem_placed.2 hp, rfl⟩
  · intro name text hname
    have hmem := OrderedMap.mem_of_get? _ hname
    rw [entries_files h] at hmem
    obtain ⟨⟨p, text'⟩, he, hfile⟩ := List.mem_map.1 hmem
    cases hfile
    exact ⟨p, mem_placed.1 he, rfl⟩
  · rw [OrderedMap.size, entries_files h, List.length_map, length_placed]

/-- A query with two templates before authorization, the first without a response, and a mutation with one after it. -/
def board : Registry :=
  OrderedMap.ofList [
    (⟨"Query", "getPost"⟩,
      ((⟨some "PostTable", "load", "post", "Post", {}⟩ : Resolver).addRequest .preAuth "keys").addToSlot .preAuth
        ⟨some "merge", some "merged"⟩),
    (⟨"Mutation", "createPost"⟩,
      (⟨some "PostTable", "store", "stored", "Post", {}⟩ : Resolver).addToSlot .postAuth ⟨none, some "gate"⟩)]

theorem board_files : (∀ key ∈ board.keys, key.Plain) ∧
    (∀ p q, (board.template? p).isSome → (board.template? q).isSome → p.fileName = q.fileName → p = q) ∧
    board.files.get? "Query.getPost.req.vtl" = some "load" ∧
    board.files.get? "Query.getPost.preAuth.2.res.vtl" = some "merged" ∧
    board.files.get? "Mutation.createPost.postAuth.1.res.vtl" = some "gate" ∧ board.files.size = 8 := by
  have hplain : ∀ key ∈ board.keys, key.Plain := by decide
  obtain ⟨hdistinct, hfound, -, hsize⟩ := board.files_faithful hplain
  refine ⟨hplain, hdistinct, ?_, ?_, ?_, hsize.trans (by decide)⟩
  · exact hfound ⟨⟨"Query", "getPost"⟩, none, .request⟩ _ rfl
  · exact hfound ⟨⟨"Query", "getPost"⟩, some (.preAuth, 2), .response⟩ _ rfl
  · exact hfound ⟨⟨"Mutation", "createPost"⟩, some (.postAuth, 1), .response⟩ _ rfl

end ModelApi
